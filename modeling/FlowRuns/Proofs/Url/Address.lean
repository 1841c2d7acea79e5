import Mathlib.Algebra.Group.Nat.Defs
import FlowRuns.Proofs.Url.Path

/-!
# Addresses as text

An address that was read is written in one way, whatever it was read from, and what is written is read as the
same address: numbers have no needless zeros, and two colons in a row stand for as many zeros as are missing.

* `digitsIn_toDigits`, `digitsIn_lt` — a number and its digits.
* `parts_numbers` — numbers between marks.
* `ipv4?_lt`, `ipv4?_text` — addresses of four bytes.
* `ipv6?_spec`, `ipv6?_text` — addresses of eight pieces.
-/

namespace FlowRuns.Url

open Text Text.Form

/-! ## Digits -/

theorem mem_toDigits {b : Nat} (hb : 1 < b) {n : Nat} {c : Char} (h : c ∈ Nat.toDigits b n) :
    ∃ k < b, c = Nat.digitChar k := by
  induction n using Nat.strongRecOn with
  | _ n ih =>
    by_cases hn : n < b
    · rw [Nat.toDigits_of_lt_base hn, List.mem_singleton] at h
      exact ⟨n, hn, h⟩
    · have hle : b ≤ n := Nat.le_of_not_lt hn
      rw [Nat.toDigits_of_base_le hb hle, List.mem_append, List.mem_singleton] at h
      obtain h | h := h
      · exact ih (n / b) (Nat.div_lt_self (by omega) hb) h
      · exact ⟨n % b, Nat.mod_lt _ (by omega), h⟩

/-- The mark between digits is none of them. -/
theorem not_mem_toDigits {mark : Char} (hmark : ∀ k < 16, mark ≠ Nat.digitChar k) {b : Nat} (hb : 1 < b)
    (hle : b ≤ 16) (n : Nat) : mark ∉ Nat.toDigits b n := by
  intro h
  obtain ⟨k, hk, heq⟩ := mem_toDigits hb h
  exact hmark k (Nat.lt_of_lt_of_le hk hle) heq

/-- The digits of a number other than zero begin with another one than zero. -/
theorem head?_toDigits_ne {b : Nat} (hb : 1 < b) (hle : b ≤ 16) {n : Nat} (hn : 0 < n) :
    (Nat.toDigits b n).head? ≠ some '0' := by
  have hall : ∀ k < 16, 0 < k → Nat.digitChar k ≠ '0' := by decide
  induction n using Nat.strongRecOn with
  | _ n ih =>
    by_cases hlt : n < b
    · rw [Nat.toDigits_of_lt_base hlt, List.head?_cons]
      exact fun h => hall n (Nat.lt_of_lt_of_le hlt hle) hn (Option.some.inj h)
    · have hbase : b ≤ n := Nat.le_of_not_lt hlt
      rw [Nat.toDigits_of_base_le hb hbase, List.head?_append,
        Option.or_of_isSome (by simp [Nat.toDigits_ne_nil])]
      exact ih (n / b) (Nat.div_lt_self hn hb) (Nat.div_pos hbase (by omega))

theorem digitBelow_digitChar {b : Nat} (hle : b ≤ 16) {k : Nat} (hk : k < b) :
    digitBelow? b (Nat.digitChar k) = some k := by
  have hall : ∀ k < 16, hexValue? (Nat.digitChar k) = some k := by decide
  rw [digitBelow?, hall k (Nat.lt_of_lt_of_le hk hle), Option.filter_some, if_pos (decide_eq_true hk)]

/-- **A number** is what its digits write. -/
theorem digitsIn_toDigits {b : Nat} (hb : 1 < b) (hle : b ≤ 16) (n : Nat) :
    digitsIn? b (Nat.toDigits b n) = some n := by
  induction n using Nat.strongRecOn with
  | _ n ih =>
    by_cases hn : n < b
    · rw [Nat.toDigits_of_lt_base hn]
      simp [digitsIn?, digitBelow_digitChar hle hn]
    · have hbase : b ≤ n := Nat.le_of_not_lt hn
      have hfront := ih (n / b) (Nat.div_lt_self (by omega) hb)
      have hlast := digitBelow_digitChar hle (Nat.mod_lt n (by omega : 0 < b))
      rw [digitsIn?] at hfront
      rw [Nat.toDigits_of_base_le hb hbase, digitsIn?, List.foldlM_append, hfront]
      simp [hlast, Nat.div_add_mod]

/-- Digits write a number of as many places. -/
theorem digitsIn_lt {b : Nat} {s : List Char} {n : Nat} (h : digitsIn? b s = some n) :
    n < b ^ s.length := by
  have hfrom (s : List Char) (m n : Nat)
      (h : s.foldlM (fun n c => (digitBelow? b c).map (b * n + ·)) m = some n) :
      n < (m + 1) * b ^ s.length := by
    induction s generalizing m with
    | nil =>
      obtain rfl := Option.some.inj h
      simp
    | cons c s ih =>
      rw [List.foldlM_cons] at h
      obtain ⟨m', hm', h⟩ := Option.bind_eq_some_iff.1 h
      obtain ⟨k, hk, rfl⟩ := Option.map_eq_some_iff.1 hm'
      have hkb : k < b := by simpa using (Option.filter_eq_some_iff.1 hk).2
      have hplace : b * m + k + 1 ≤ (m + 1) * b := by
        rw [Nat.succ_mul, Nat.mul_comm b m]
        omega
      calc n < (b * m + k + 1) * b ^ s.length := ih _ h
        _ ≤ ((m + 1) * b) * b ^ s.length := Nat.mul_le_mul_right _ hplace
        _ = (m + 1) * b ^ (c :: s).length := by rw [List.length_cons, Nat.pow_succ', Nat.mul_assoc]
  simpa using hfrom s 0 n h

/-! ## Texts between marks -/

theorem mem_intercalate {mark c : Char} {ss : List (List Char)} (h : c ∈ [mark].intercalate ss) :
    c = mark ∨ ∃ s ∈ ss, c ∈ s := by
  induction ss with
  | nil => cases h
  | cons s ss ih =>
    cases ss with
    | nil => exact .inr ⟨s, List.mem_cons_self, by simpa using h⟩
    | cons t ss =>
      rw [List.intercalate_cons_cons, List.mem_append, List.mem_append, List.mem_singleton] at h
      obtain (h | h) | h := h
      · exact .inr ⟨s, List.mem_cons_self, h⟩
      · exact .inl h
      · obtain h | ⟨u, hu, hc⟩ := ih h
        · exact .inl h
        · exact .inr ⟨u, List.mem_cons_of_mem s hu, hc⟩

theorem mem_intercalate_of_mem {mark c : Char} {ss : List (List Char)} {s : List Char} (hs : s ∈ ss)
    (hc : c ∈ s) : c ∈ [mark].intercalate ss := by
  induction ss with
  | nil => cases hs
  | cons t ss ih =>
    cases ss with
    | nil =>
      obtain rfl := List.mem_singleton.1 hs
      simpa using hc
    | cons u ss =>
      rw [List.intercalate_cons_cons, List.mem_append, List.mem_append]
      obtain rfl | hs := List.mem_cons.1 hs
      · exact .inl (.inl hc)
      · exact .inr (ih hs)

/-- Whatever is read of several texts is read of one of them. -/
theorem exists_of_mem_mapM {α β : Type} {f : α → Option β} {as : List α} {bs : List β}
    (h : as.mapM f = some bs) {b : β} (hb : b ∈ bs) : ∃ a ∈ as, f a = some b := by
  induction as generalizing bs with
  | nil =>
    obtain rfl := Option.some.inj h
    cases hb
  | cons a as ih =>
    rw [List.mapM_cons] at h
    obtain ⟨b', hb', h⟩ := Option.bind_eq_some_iff.1 h
    obtain ⟨bs', hbs', h⟩ := Option.bind_eq_some_iff.1 h
    obtain rfl := Option.some.inj h
    obtain rfl | hb := List.mem_cons.1 hb
    · exact ⟨a, List.mem_cons_self, hb'⟩
    · obtain ⟨a', ha', hread⟩ := ih hbs' hb
      exact ⟨a', List.mem_cons_of_mem a ha', hread⟩

/-- Several texts are read if each of them is. -/
theorem mapM_eq_some_map {α β : Type} {f : α → Option β} {g : α → β} {as : List α}
    (h : ∀ a ∈ as, f a = some (g a)) : as.mapM f = some (as.map g) := by
  induction as with
  | nil => rfl
  | cons a as ih =>
    rw [List.mapM_cons, h a List.mem_cons_self, ih fun b hb => h b (List.mem_cons_of_mem a hb)]
    rfl

/-- Numbers between marks are the parts of their text. -/
theorem parts_numbers {mark : Char} (hmark : ∀ k < 16, mark ≠ Nat.digitChar k) {b : Nat} (hb : 1 < b)
    (hle : b ≤ 16) {ns : List Nat} (hns : ns ≠ []) :
    parts mark ([mark].intercalate (ns.map (Nat.toDigits b))) = ns.map (Nat.toDigits b) := by
  rw [parts_eq_splitOn]
  refine List.splitOn_intercalate mark (fun w hw => ?_) (by simpa using hns)
  obtain ⟨n, -, rfl⟩ := List.mem_map.1 hw
  exact not_mem_toDigits hmark hb hle n

/-- Numbers are read one by one. -/
theorem mapM_numbers {f : List Char → Option Nat} {b : Nat} {ns : List Nat}
    (h : ∀ n ∈ ns, f (Nat.toDigits b n) = some n) : (ns.map (Nat.toDigits b)).mapM f = some ns := by
  have hread := mapM_eq_some_map (f := f ∘ Nat.toDigits b) (g := id) h
  rwa [List.map_id, ← List.mapM_map] at hread

/-! ## Addresses of four bytes -/

/-- The bytes of an address. -/
def ipv4Bytes (address : Nat) : List Nat :=
  [address / byteWeight 3, address / byteWeight 2 % 256, address / byteWeight 1 % 256, address % 256]

theorem byteWeight_succ (n : Nat) : byteWeight (n + 1) = 256 * byteWeight n := by
  rw [byteWeight, List.replicate_succ', List.foldl_append, Nat.mul_comm]
  rfl

/-- Bytes from a place on count less than one at the place before. -/
theorem placed_lt {before : List Nat} (hbytes : ∀ x ∈ before, x ≤ 255) {i : Nat}
    (hi : i + before.length ≤ 4) {sum : Nat}
    (hsum : sum + byteWeight (4 - i) < byteWeight 4 + byteWeight (4 - (i + before.length))) :
    (before.zipIdx i).foldl (fun sum p => sum + p.1 * byteWeight (3 - p.2)) sum < byteWeight 4 := by
  induction before generalizing i sum with
  | nil =>
    rw [List.length_nil, Nat.add_zero] at hsum
    exact Nat.lt_of_add_lt_add_right hsum
  | cons x before ih =>
    rw [List.length_cons] at hi hsum
    have hx : x ≤ 255 := hbytes x List.mem_cons_self
    have hweight : byteWeight (4 - i) = 256 * byteWeight (3 - i) := by
      rw [← byteWeight_succ]
      congr 1
      omega
    have hplace : x * byteWeight (3 - i) ≤ 255 * byteWeight (3 - i) := Nat.mul_le_mul_right _ hx
    refine ih (fun y hy => hbytes y (List.mem_cons_of_mem x hy)) (i := i + 1) (by omega) ?_
    have hnext : 4 - (i + 1) = 3 - i := by omega
    have hend : i + 1 + before.length = i + (before.length + 1) := by omega
    rw [hnext, hend]
    dsimp only
    omega

/-- An address that was read has four bytes. -/
theorem ipv4?_lt {s : List Char} {a : Nat} (h : ipv4? s = some a) : a < byteWeight 4 := by
  unfold ipv4? at h
  obtain ⟨numbers, -, h⟩ := Option.bind_eq_some_iff.1 h
  obtain ⟨last, -, h⟩ := Option.bind_eq_some_iff.1 h
  dsimp only at h
  split at h
  next hfit =>
    simp only [Bool.and_eq_true, decide_eq_true_eq, List.all_eq_true] at hfit
    obtain ⟨⟨hlength, hbytes⟩, hlast⟩ := hfit
    obtain rfl := Option.some.inj h
    refine placed_lt hbytes (by omega) ?_
    rw [Nat.sub_zero, Nat.zero_add]
    omega
  next => cases h

/-- A decimal number is read as one: its digits begin with no zero that would make it octal. -/
theorem ipv4Part_toDigits (n : Nat) : ipv4Part? (Nat.toDigits 10 n) = some n := by
  by_cases hn : n = 0
  · subst hn
    decide
  · have hhead := head?_toDigits_ne (b := 10) (by decide) (by decide) (Nat.pos_of_ne_zero hn)
    have hdecimal := digitsIn_toDigits (b := 10) (by decide) (by decide) n
    obtain ⟨c, rest, hdigits⟩ := List.exists_cons_of_ne_nil (Nat.toDigits_ne_nil (b := 10) (n := n))
    rw [hdigits] at hhead hdecimal ⊢
    have hc : c ≠ '0' := fun h => hhead (congrArg some h)
    unfold ipv4Part?
    split
    all_goals simp_all

theorem parts_ipv4_text (a : Nat) :
    parts '.' (Host.ipv4 a).text = (ipv4Bytes a).map (Nat.toDigits 10) :=
  parts_numbers (by decide) (by decide) (by decide) (List.cons_ne_nil _ _)

theorem hostParts_ipv4_text (a : Nat) :
    hostParts (Host.ipv4 a).text = (ipv4Bytes a).map (Nat.toDigits 10) := by
  rw [hostParts, parts_ipv4_text]
  refine if_neg ?_
  simp [ipv4Bytes, Nat.toDigits_ne_nil]

/-- **An address of four bytes** is read as itself. -/
theorem ipv4?_text {a : Nat} (h : a < byteWeight 4) : ipv4? (Host.ipv4 a).text = some a := by
  have hnumbers : (hostParts (Host.ipv4 a).text).mapM ipv4Part? = some (ipv4Bytes a) := by
    rw [hostParts_ipv4_text]
    exact mapM_numbers fun n _ => ipv4Part_toDigits n
  rw [ipv4?, hnumbers]
  simp [ipv4Bytes, byteWeight] at h ⊢
  omega

/-! ## Addresses of eight pieces -/

theorem ipv6Piece_lt {s : List Char} {n : Nat} (h : ipv6Piece? s = some n) : n < 65536 := by
  unfold ipv6Piece? at h
  split at h
  next hlength =>
    simp only [Bool.and_eq_true, decide_eq_true_eq] at hlength
    calc n < 16 ^ s.length := digitsIn_lt h
      _ ≤ 16 ^ 4 := Nat.pow_le_pow_right (by decide) hlength.2
  next => cases h

theorem ipv6Piece_toDigits {n : Nat} (h : n < 65536) : ipv6Piece? (Nat.toDigits 16 n) = some n := by
  have hmost : (Nat.toDigits 16 n).length ≤ 4 :=
    (Nat.length_toDigits_le_iff (by decide) (by decide)).2 h
  have hleast : 1 ≤ (Nat.toDigits 16 n).length := Nat.length_toDigits_pos
  rw [ipv6Piece?, if_pos (by simp [hmost, hleast])]
  exact digitsIn_toDigits (by decide) (by decide) n

theorem embedded_lt {s : List Char} {ps : List Nat} (h : embedded? s = some ps) :
    ∀ p ∈ ps, p < 65536 := by
  obtain ⟨bytes, -, h⟩ := Option.bind_eq_some_iff.1 h
  split at h
  next a b c d =>
    split at h
    next hfit =>
      simp only [Bool.and_eq_true, decide_eq_true_eq] at hfit
      obtain rfl := Option.some.inj h
      simp only [List.mem_cons, List.not_mem_nil, or_false, forall_eq_or_imp, forall_eq]
      omega
    next => cases h
  next => cases h

theorem ipv6Pieces_lt {tail : Bool} {s : List Char} {ps : List Nat} (h : ipv6Pieces? tail s = some ps) :
    ∀ p ∈ ps, p < 65536 := by
  have hpieces {ws : List (List Char)} {ps : List Nat} (h : ws.mapM ipv6Piece? = some ps) :
      ∀ p ∈ ps, p < 65536 := fun p hp => by
    obtain ⟨w, -, hw⟩ := exists_of_mem_mapM h hp
    exact ipv6Piece_lt hw
  unfold ipv6Pieces? at h
  split at h
  next =>
    obtain rfl := Option.some.inj h
    simp
  next =>
    dsimp only at h
    split at h
    next last hlast =>
      split at h
      next =>
        obtain ⟨front, hfront, h⟩ := Option.bind_eq_some_iff.1 h
        obtain ⟨back, hback, h⟩ := Option.bind_eq_some_iff.1 h
        obtain rfl := Option.some.inj h
        exact fun p hp => (List.mem_append.1 hp).elim (hpieces hfront p) (embedded_lt hback p)
      next => exact hpieces h
    next => cases h

/-- An address that was read has eight pieces of 16 bits. -/
theorem ipv6?_spec {s : List Char} {ps : List Nat} (h : ipv6? s = some ps) :
    ps.length = 8 ∧ ∀ p ∈ ps, p < 65536 := by
  unfold ipv6? at h
  split at h
  next =>
    obtain ⟨hps, hlength⟩ := Option.filter_eq_some_iff.1 h
    exact ⟨by simpa using hlength, ipv6Pieces_lt hps⟩
  next a b hcut =>
    obtain ⟨front, hfront, h⟩ := Option.bind_eq_some_iff.1 h
    obtain ⟨back, hback, h⟩ := Option.bind_eq_some_iff.1 h
    dsimp only at h
    split at h
    next hroom =>
      obtain rfl := Option.some.inj h
      refine ⟨by simp only [List.length_append, List.length_replicate]; omega, fun p hp => ?_⟩
      simp only [List.mem_append, List.mem_replicate] at hp
      obtain (hp | ⟨-, rfl⟩) | hp := hp
      · exact ipv6Pieces_lt hfront p hp
      · decide
      · exact ipv6Pieces_lt hback p hp
    next => cases h

theorem colon_not_mem_toDigits (p : Nat) : ':' ∉ Nat.toDigits 16 p :=
  not_mem_toDigits (by decide) (by decide) (by decide) p

theorem piecesText_cons_cons (p q : Nat) (ps : List Nat) :
    piecesText (p :: q :: ps) = Nat.toDigits 16 p ++ ':' :: piecesText (q :: ps) := by
  change [':'].intercalate (Nat.toDigits 16 p :: Nat.toDigits 16 q :: ps.map (Nat.toDigits 16)) = _
  rw [List.intercalate_cons_cons, List.append_assoc]
  rfl

/-- The text of some pieces begins with a digit. -/
theorem head_piecesText (p : Nat) (ps : List Nat) :
    ∃ d rest, piecesText (p :: ps) = d :: rest ∧ d ≠ ':' := by
  obtain ⟨d, rest, hdigits⟩ := List.exists_cons_of_ne_nil (Nat.toDigits_ne_nil (b := 16) (n := p))
  have hd : d ≠ ':' := by
    rintro rfl
    exact colon_not_mem_toDigits p (hdigits ▸ List.mem_cons_self)
  cases ps with
  | nil => exact ⟨d, rest, by simpa [piecesText] using hdigits, hd⟩
  | cons q ps => exact ⟨d, _, by rw [piecesText_cons_cons, hdigits]; rfl, hd⟩

/-- A text is not cut at one colon. -/
theorem cutDoubleColon_colon {d : Char} (hd : d ≠ ':') (s : List Char) :
    cutDoubleColon (':' :: d :: s) = (cutDoubleColon (d :: s)).map fun p => (':' :: p.1, p.2) := by
  rw [cutDoubleColon]
  intro rest _ h
  exact hd (List.cons.inj h).1

/-- Nor is it cut where there is none. -/
theorem cutDoubleColon_append {s : List Char} (h : ':' ∉ s) (t : List Char) :
    cutDoubleColon (s ++ t) = (cutDoubleColon t).map fun p => (s ++ p.1, p.2) := by
  induction s with
  | nil => simp
  | cons c s ih =>
    obtain ⟨hc, hs⟩ := not_or.1 (mt List.mem_cons.2 h)
    have hstep : cutDoubleColon (c :: (s ++ t)) =
        (cutDoubleColon (s ++ t)).map fun p => (c :: p.1, p.2) := by
      rw [cutDoubleColon]
      rintro rest rfl
      exact absurd rfl hc
    rw [List.cons_append, hstep, ih hs, Option.map_map]
    rfl

/-- Pieces are written without two colons in a row, and are cut off before these. -/
theorem cutDoubleColon_piecesText (ps : List Nat) :
    cutDoubleColon (piecesText ps) = none ∧
      ∀ t, cutDoubleColon (piecesText ps ++ ':' :: ':' :: t) = some (piecesText ps, t) := by
  induction ps with
  | nil => exact ⟨rfl, fun t => rfl⟩
  | cons p ps ih =>
    cases ps with
    | nil =>
      have htext : piecesText [p] = Nat.toDigits 16 p := by simp [piecesText]
      have hcut := cutDoubleColon_append (colon_not_mem_toDigits p)
      rw [htext]
      refine ⟨by simpa [cutDoubleColon] using hcut [], fun t => ?_⟩
      rw [hcut]
      simp [cutDoubleColon]
    | cons q ps =>
      obtain ⟨d, rest, hhead, hd⟩ := head_piecesText q ps
      have hcut (t : List Char) : cutDoubleColon (piecesText (p :: q :: ps) ++ t) =
          (cutDoubleColon (piecesText (q :: ps) ++ t)).map fun c =>
            (Nat.toDigits 16 p ++ ':' :: c.1, c.2) := by
        rw [piecesText_cons_cons, List.append_assoc, cutDoubleColon_append (colon_not_mem_toDigits p), hhead,
          List.cons_append, List.cons_append, cutDoubleColon_colon hd, Option.map_map]
        rfl
      refine ⟨?_, fun t => ?_⟩
      · have hnone := hcut []
        rwa [List.append_nil, List.append_nil, ih.1] at hnone
      · rw [hcut, ih.2 t, piecesText_cons_cons]
        rfl

/-- Pieces are read as themselves; none of them is taken for an embedded address. -/
theorem ipv6Pieces_piecesText {ps : List Nat} (h : ∀ p ∈ ps, p < 65536) (tail : Bool) :
    ipv6Pieces? tail (piecesText ps) = some ps := by
  cases ps with
  | nil => rfl
  | cons p ps =>
    obtain ⟨d, rest, hhead, -⟩ := head_piecesText p ps
    have hparts : parts ':' (piecesText (p :: ps)) = (p :: ps).map (Nat.toDigits 16) :=
      parts_numbers (by decide) (by decide) (by decide) (by simp)
    have hlast (last : List Char) (hlast : ((p :: ps).map (Nat.toDigits 16)).getLast? = some last) :
        last.contains '.' = false := by
      obtain ⟨n, -, rfl⟩ := List.mem_map.1 (List.mem_of_getLast? hlast)
      simpa using not_mem_toDigits (by decide) (by decide) (by decide) n
    have hread : ((p :: ps).map (Nat.toDigits 16)).mapM ipv6Piece? = some (p :: ps) :=
      mapM_numbers fun q hq => ipv6Piece_toDigits (h q hq)
    unfold ipv6Pieces?
    rw [hhead, if_neg (by simp), ← hhead, hparts]
    dsimp only
    cases hsome : ((p :: ps).map (Nat.toDigits 16)).getLast? with
    | none => simp at hsome
    | some last =>
      dsimp only
      rw [hlast last hsome, Bool.and_false, if_neg Bool.false_ne_true, hread]

/-- There are as many zeros as the longest run is said to have where it is said to begin. -/
theorem longestZeros_spec (ps : List Nat) :
    (longestZeros ps).2 ≤ leadingZeros (ps.drop (longestZeros ps).1) := by
  refine List.foldlRecOn (motive := fun (best : Nat × Nat) => best.2 ≤ leadingZeros (ps.drop best.1)) _ _
    (Nat.zero_le _) fun best hbest i _ => ?_
  dsimp only
  split
  · exact Nat.le_refl _
  · exact hbest

theorem eq_replicate_append_of_leadingZeros {ps : List Nat} {n : Nat} (h : n ≤ leadingZeros ps) :
    ps = List.replicate n 0 ++ ps.drop n := by
  have hprefix : ps.takeWhile (· = 0) <+: ps := List.takeWhile_prefix _
  have htake : ps.take n = List.replicate n 0 := by
    refine List.eq_replicate_iff.2 ⟨?_, fun p hp => ?_⟩
    · rw [List.length_take, Nat.min_eq_left (Nat.le_trans h hprefix.length_le)]
    · have hzeros : ps.take n <+: ps.takeWhile (· = 0) :=
        List.prefix_of_prefix_length_le (List.take_prefix n ps) hprefix
          (Nat.le_trans (List.length_take_le n ps) h)
      simpa using List.all_eq_true.1 List.all_takeWhile p (hzeros.subset hp)
  rw [← htake, List.take_append_drop]

/-- Two colons in a row are read as the zeros that are left out. -/
theorem ipv6?_elided (front back : List Nat) {n : Nat} (hfront : ∀ p ∈ front, p < 65536)
    (hback : ∀ p ∈ back, p < 65536) (hsum : front.length + n + back.length = 8) (hn : 0 < n) :
    ipv6? (piecesText front ++ ':' :: ':' :: piecesText back) =
      some (front ++ List.replicate n 0 ++ back) := by
  have hmissing : 8 - (front.length + back.length) = n := by omega
  have hroom : front.length + back.length ≤ 7 := by omega
  rw [ipv6?, (cutDoubleColon_piecesText front).2]
  dsimp only
  rw [ipv6Pieces_piecesText hfront, ipv6Pieces_piecesText hback]
  simp only [Option.bind_eq_bind, Option.bind_some, hmissing, if_pos hroom]

/-- What an address of eight pieces is written with: colons, and the digits of numbers. -/
theorem mem_ipv6Text {ps : List Nat} {c : Char} (h : c ∈ ipv6Text ps) :
    c = ':' ∨ ∃ p, c ∈ Nat.toDigits 16 p := by
  have hpieces {ps : List Nat} (h : c ∈ piecesText ps) : c = ':' ∨ ∃ p, c ∈ Nat.toDigits 16 p := by
    obtain rfl | ⟨w, hw, hc⟩ := mem_intercalate h
    · exact .inl rfl
    · obtain ⟨p, -, rfl⟩ := List.mem_map.1 hw
      exact .inr ⟨p, hc⟩
  unfold ipv6Text at h
  dsimp only at h
  split at h
  · simp only [List.mem_append, List.mem_cons, List.not_mem_nil, or_false, or_self] at h
    obtain (h | rfl) | h := h
    · exact hpieces h
    · exact .inl rfl
    · exact hpieces h
  · exact hpieces h

/-- **An address of eight pieces** is read as itself. -/
theorem ipv6?_text {ps : List Nat} (hlength : ps.length = 8) (hbound : ∀ p ∈ ps, p < 65536) :
    ipv6? (ipv6Text ps) = some ps := by
  have hzeros := longestZeros_spec ps
  rw [ipv6Text]
  generalize longestZeros ps = zeros at hzeros
  obtain ⟨start, n⟩ := zeros
  dsimp only at hzeros ⊢
  by_cases hn : 2 ≤ n
  · have hsplit : ps = ps.take start ++ List.replicate n 0 ++ ps.drop (start + n) := by
      rw [List.append_assoc, ← List.drop_drop, ← eq_replicate_append_of_leadingZeros hzeros,
        List.take_append_drop]
    have hsum := congrArg List.length hsplit
    simp only [List.length_append, List.length_replicate, hlength] at hsum
    have hread := ipv6?_elided (ps.take start) (ps.drop (start + n))
      (fun p hp => hbound p (List.mem_of_mem_take hp)) (fun p hp => hbound p (List.mem_of_mem_drop hp))
      hsum.symm (by omega)
    rw [if_pos hn, List.append_assoc]
    exact hread.trans (congrArg some hsplit.symm)
  · rw [if_neg hn, ipv6?, (cutDoubleColon_piecesText ps).1]
    dsimp only
    rw [ipv6Pieces_piecesText hbound]
    simp [hlength]

end FlowRuns.Url
