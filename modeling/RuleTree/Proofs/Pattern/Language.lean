import Mathlib.Computability.Language
import RuleTree.Pattern.Regex
/-! # Languages of regular expressions

    An expression without anchors has a language: the texts that it matches
    as a whole, told by recursion on the expression and without a position.
    The matcher knows positions only, as bits of a number, and stops
    iterating as soon as nothing changes.

    * `Reaches`: a word of a language leads from one position of a text to
      another;
    * `Follows`: a step on sets of positions follows a language.  Steps
      compose as languages do, one lemma for each operation, and a
      repetition without an upper bound needs no more steps than the text
      has characters (`follows_kstar`);
    * `accepts_iff`: the matcher accepts the texts of the language. -/

namespace RuleTree

namespace CharSet

/-- A range holds the characters between its ends. -/
theorem contains_range_iff {first last c : Char} :
    (range first last).contains c.toNat = true ↔ first ≤ c ∧ c ≤ last := by
  simp [range, contains, Unicode.Run.contains, Char.le_def, UInt32.le_iff_toNat_le, Nat.mod_one]

theorem contains_singleton_iff {a c : Char} :
    (singleton a).contains c.toNat = true ↔ c = a := by
  rw [singleton, contains_range_iff]
  constructor
  · rintro ⟨h, h'⟩
    exact Char.le_antisymm h' h
  · rintro rfl
    exact ⟨Char.le_refl c, Char.le_refl c⟩

end CharSet

namespace Regex

/-- No leaf looks at the characters around a position. -/
def anchorFree : Regex Leaf → Bool
  | empty => true
  | leaf (.one _) => true
  | leaf (.here _) => false
  | seq r s => r.anchorFree && s.anchorFree
  | alt r s => r.anchorFree && s.anchorFree
  | times r _ _ => r.anchorFree

/-- The texts of one character of a set. -/
def charLanguage (s : CharSet) : Language Char := {w | ∃ c, s.contains c.toNat = true ∧ w = [c]}

/-- The texts that an expression without anchors matches as a whole. -/
def language : Regex Leaf → Language Char
  | empty => 1
  | leaf (.one s) => charLanguage s
  | leaf (.here _) => 0
  | seq r s => r.language * s.language
  | alt r s => r.language + s.language
  | times r least (some most) => r.language ^ least * (1 + r.language) ^ (most - least)
  | times r least none => r.language ^ least * KStar.kstar r.language

/-! ## Powers of a language -/

section Powers

variable {L : Language Char} {w : List Char}

/-- At most `n` words, one after the other. -/
theorem mem_one_add_pow_iff {n : Nat} : w ∈ (1 + L) ^ n ↔ ∃ k ≤ n, w ∈ L ^ k := by
  induction n generalizing w with
  | zero =>
      rw [pow_zero]
      constructor
      · intro h
        exact ⟨0, Nat.le_refl 0, h⟩
      · rintro ⟨k, hk, h⟩
        rw [Nat.le_zero.mp hk] at h
        exact h
  | succ n ih =>
      rw [pow_succ', Language.mem_mul]
      constructor
      · rintro ⟨u, hu, v, hv, rfl⟩
        obtain ⟨k, hk, hv⟩ := ih.mp hv
        rcases (Language.mem_add 1 L u).mp hu with hu | hu
        · rw [(Language.mem_one u).mp hu]
          exact ⟨k, Nat.le_succ_of_le hk, hv⟩
        · refine ⟨k + 1, Nat.succ_le_succ hk, ?_⟩
          rw [pow_succ']
          exact Language.append_mem_mul hu hv
      · rintro ⟨k, hk, h⟩
        cases k with
        | zero =>
            -- the factor that is not needed takes no characters
            exact ⟨[], Or.inl rfl, w, ih.mpr ⟨0, Nat.zero_le n, h⟩, rfl⟩
        | succ k =>
            rw [pow_succ', Language.mem_mul] at h
            obtain ⟨u, hu, v, hv, rfl⟩ := h
            exact ⟨u, Or.inr hu, v, ih.mpr ⟨k, Nat.le_of_succ_le_succ hk, hv⟩, rfl⟩

/-- Words that are not empty are no more than their characters. -/
theorem length_le_of_nonempty {ws : List (List Char)} (h : ∀ w ∈ ws, w ≠ []) :
    ws.length ≤ ws.flatten.length := by
  induction ws with
  | nil => exact Nat.le_refl 0
  | cons w ws ih =>
      rw [List.forall_mem_cons] at h
      have hw := List.length_pos_iff.mpr h.1
      have hws := ih h.2
      rw [List.flatten_cons, List.length_append, List.length_cons]
      omega

/-- As many words as a text has characters are enough, since words without
    characters can be left out. -/
theorem mem_kstar_iff_of_length_le {n : Nat} (h : w.length ≤ n) :
    w ∈ KStar.kstar L ↔ w ∈ (1 + L) ^ n := by
  rw [mem_one_add_pow_iff]
  constructor
  · intro hw
    obtain ⟨ws, rfl, hws⟩ := Language.mem_kstar_iff_exists_nonempty.mp hw
    have hlength := length_le_of_nonempty fun u hu => (hws u hu).2
    exact ⟨ws.length, by omega, Language.mem_pow.mpr ⟨ws, rfl, rfl, fun u hu => (hws u hu).1⟩⟩
  · rintro ⟨k, -, hw⟩
    obtain ⟨ws, rfl, -, hws⟩ := Language.mem_pow.mp hw
    exact Language.join_mem_kstar hws

/-- A counted repetition is a power between its bounds. -/
theorem mem_language_times_iff {r : Regex Leaf} {least most : Nat} (h : least ≤ most) :
    w ∈ (times r least (some most)).language
      ↔ ∃ n, least ≤ n ∧ n ≤ most ∧ w ∈ r.language ^ n := by
  rw [language, Language.mem_mul]
  constructor
  · rintro ⟨u, hu, v, hv, rfl⟩
    obtain ⟨k, hk, hv⟩ := mem_one_add_pow_iff.mp hv
    refine ⟨least + k, by omega, by omega, ?_⟩
    rw [pow_add]
    exact Language.append_mem_mul hu hv
  · rintro ⟨n, hl, hm, hw⟩
    obtain ⟨k, rfl⟩ := Nat.exists_eq_add_of_le hl
    rw [pow_add, Language.mem_mul] at hw
    obtain ⟨u, hu, v, hv, rfl⟩ := hw
    exact ⟨u, hu, v, mem_one_add_pow_iff.mpr ⟨k, by omega, hv⟩, rfl⟩

end Powers

/-! ## Positions -/

/-- A word of the language leads from a position of the text to another. -/
def Reaches (text : List Char) (L : Language Char) (i j : Nat) : Prop :=
  ∃ w ∈ L, w <+: text.drop i ∧ j = i + w.length

section Reaches

variable {text : List Char} {L M : Language Char} {i j : Nat}

/-- The empty word leads nowhere else. -/
theorem reaches_one_iff : Reaches text 1 i j ↔ i = j := by
  constructor
  · rintro ⟨w, hw, -, rfl⟩
    rw [(Language.mem_one w).mp hw]
    rfl
  · rintro rfl
    exact ⟨[], Language.nil_mem_one, List.nil_prefix, rfl⟩

/-- A union leads where either language leads. -/
theorem reaches_add_iff : Reaches text (L + M) i j ↔ Reaches text L i j ∨ Reaches text M i j := by
  constructor
  · rintro ⟨w, hw | hw, h⟩
    · exact Or.inl ⟨w, hw, h⟩
    · exact Or.inr ⟨w, hw, h⟩
  · rintro (⟨w, hw, h⟩ | ⟨w, hw, h⟩)
    · exact ⟨w, Or.inl hw, h⟩
    · exact ⟨w, Or.inr hw, h⟩

/-- A word in two parts begins a text when each part begins what is left. -/
theorem append_prefix_iff {u v ws : List Char} :
    u ++ v <+: ws ↔ u <+: ws ∧ v <+: ws.drop u.length := by
  constructor
  · rintro ⟨t, rfl⟩
    rw [List.append_assoc, List.drop_left]
    exact ⟨List.prefix_append _ _, List.prefix_append _ _⟩
  · rintro ⟨⟨t, rfl⟩, h⟩
    rw [List.drop_left] at h
    exact (List.prefix_append_right_inj u).mpr h

/-- A product leads over a place in between. -/
theorem reaches_mul_iff :
    Reaches text (L * M) i j ↔ ∃ k, Reaches text L i k ∧ Reaches text M k j := by
  constructor
  · rintro ⟨w, hw, hprefix, rfl⟩
    obtain ⟨u, hu, v, hv, rfl⟩ := Language.mem_mul.mp hw
    rw [append_prefix_iff, List.drop_drop] at hprefix
    refine ⟨i + u.length, ⟨u, hu, hprefix.1, rfl⟩, v, hv, hprefix.2, ?_⟩
    rw [List.length_append, Nat.add_assoc]
  · rintro ⟨_, ⟨u, hu, hup, rfl⟩, v, hv, hvp, rfl⟩
    refine ⟨u ++ v, Language.append_mem_mul hu hv, ?_, ?_⟩
    · rw [append_prefix_iff, List.drop_drop]
      exact ⟨hup, hvp⟩
    · rw [List.length_append, Nat.add_assoc]

/-- No word is longer than the text that it stands in. -/
theorem reaches_kstar_iff :
    Reaches text (KStar.kstar L) i j ↔ Reaches text ((1 + L) ^ text.length) i j := by
  refine exists_congr fun w => and_congr_left fun h => mem_kstar_iff_of_length_le ?_
  have hlength := h.1.length_le
  rw [List.length_drop] at hlength
  exact hlength.trans (Nat.sub_le _ _)

end Reaches

/-! ## Steps on sets of positions -/

/-- A step leads from the positions of a set to those that a word of the
    language reaches from one of them. -/
def Follows (text : List Char) (L : Language Char) (step : Nat → Nat) : Prop :=
  ∀ positions j, (step positions).testBit j = true
    ↔ ∃ i, positions.testBit i = true ∧ Reaches text L i j

section Follows

variable {text : List Char} {L M : Language Char} {f g : Nat → Nat}

/-- Standing still follows the empty word. -/
theorem follows_one : Follows text 1 fun positions => positions := by
  intro positions j
  simp only [reaches_one_iff, exists_eq_right]

/-- Both steps together follow a union. -/
theorem Follows.add (hf : Follows text L f) (hg : Follows text M g) :
    Follows text (L + M) fun positions => f positions ||| g positions := by
  intro positions j
  rw [Nat.testBit_or, Bool.or_eq_true, hf, hg, ← exists_or]
  refine exists_congr fun i => ?_
  rw [reaches_add_iff, and_or_left]

/-- One step after the other follows a product. -/
theorem Follows.mul (hf : Follows text L f) (hg : Follows text M g) :
    Follows text (L * M) fun positions => g (f positions) := by
  intro positions j
  rw [hg]
  constructor
  · rintro ⟨k, hk, hM⟩
    obtain ⟨i, hi, hL⟩ := (hf positions k).mp hk
    exact ⟨i, hi, reaches_mul_iff.mpr ⟨k, hL, hM⟩⟩
  · rintro ⟨i, hi, h⟩
    obtain ⟨k, hL, hM⟩ := reaches_mul_iff.mp h
    exact ⟨k, (hf positions k).mpr ⟨i, hi, hL⟩, hM⟩

/-- A repeated step follows a power. -/
theorem Follows.pow (hf : Follows text L f) (n : Nat) : Follows text (L ^ n) f^[n] := by
  induction n with
  | zero => exact follows_one
  | succ n ih =>
      rw [pow_succ']
      exact hf.mul ih

/-- Positions are reached by no more words than the text has characters. -/
theorem follows_kstar (h : Follows text ((1 + L) ^ text.length) f) :
    Follows text (KStar.kstar L) f := by
  intro positions j
  simp only [reaches_kstar_iff]
  exact h positions j

/-- Stopping where nothing changes any more changes nothing. -/
theorem iterate_eq (step : Nat → Nat) (n positions : Nat) :
    iterate step n positions = step^[n] positions := by
  induction n generalizing positions with
  | zero => rfl
  | succ n ih =>
      rw [iterate, Function.iterate_succ_apply]
      by_cases h : step positions = positions
      · -- what one step leaves alone, all further ones leave alone
        rw [if_pos h, h, Function.iterate_fixed h]
      · rw [if_neg h, ih]

/-- Spreading is repeating a step that keeps its positions. -/
theorem spread_eq (step : Nat → Nat) (n positions : Nat) :
    spread step n positions = (fun positions => positions ||| step positions)^[n] positions := by
  rw [← iterate_eq]
  induction n generalizing positions with
  | zero => rfl
  | succ n ih => rw [spread, iterate, ih]

/-- Iterating with an early end follows a power all the same. -/
theorem Follows.iterate (hf : Follows text L f) (n : Nat) :
    Follows text (L ^ n) (iterate f n) := by
  rw [funext (iterate_eq f n)]
  exact hf.pow n

/-- Spreading follows any number of repetitions up to the bound. -/
theorem Follows.spread (hf : Follows text L f) (n : Nat) :
    Follows text ((1 + L) ^ n) (spread f n) := by
  rw [funext (spread_eq f n)]
  exact (follows_one.add hf).pow n

/-! ## The matcher -/

/-- The mask of a set marks the positions before its members. -/
theorem testBit_setMask {s : CharSet} {i : Nat} :
    ∀ {cs : List Char}, (setMask s cs).testBit i = true
      ↔ ∃ c, cs[i]? = some c ∧ s.contains c.toNat = true := by
  intro cs
  induction cs generalizing i with
  | nil => simp [setMask]
  | cons c cs ih =>
      rw [setMask]
      -- the lowest bit is of the first character, the others of the rest
      cases i with
      | zero => cases h : s.contains c.toNat <;> simp [h, Nat.testBit_zero]
      | succ i =>
          have hhalf : ((if s.contains c.toNat then 1 else 0) + 2 * setMask s cs) / 2
              = setMask s cs := by split <;> omega
          rw [Nat.testBit_succ, hhalf, ih]
          rfl

/-- A set leads over one of its members. -/
theorem reaches_charLanguage_iff {s : CharSet} {i j : Nat} :
    Reaches text (charLanguage s) i j
      ↔ (∃ c, text[i]? = some c ∧ s.contains c.toNat = true) ∧ j = i + 1 := by
  constructor
  · rintro ⟨_, ⟨c, hc, rfl⟩, ⟨t, ht⟩, rfl⟩
    refine ⟨⟨c, ?_, hc⟩, rfl⟩
    rw [← Nat.add_zero i, ← List.getElem?_drop, ← ht]
    rfl
  · rintro ⟨⟨c, hi, hc⟩, rfl⟩
    obtain ⟨hlt, hget⟩ := List.getElem?_eq_some_iff.mp hi
    refine ⟨[c], ⟨c, hc, rfl⟩, ?_, rfl⟩
    rw [List.drop_eq_getElem_cons hlt, hget]
    exact List.prefix_append [c] _

/-- A leaf moves on behind every character of its set. -/
theorem follows_charLanguage (s : CharSet) :
    Follows text (charLanguage s) (Move.of text (.one s)).apply := by
  intro positions j
  simp only [reaches_charLanguage_iff]
  -- the mask keeps positions before a member, and the shift moves behind it
  show ((positions &&& setMask s text) <<< 1).testBit j = true ↔ _
  rw [Nat.testBit_shiftLeft, Nat.testBit_and, Bool.and_eq_true, Bool.and_eq_true,
    testBit_setMask, decide_eq_true_iff]
  constructor
  · rintro ⟨hj, hp, hc⟩
    exact ⟨j - 1, hp, hc, by omega⟩
  · rintro ⟨i, hp, hc, rfl⟩
    exact ⟨Nat.le_add_left 1 i, hp, hc⟩

/-- **The matcher follows the language**, by induction on the expression. -/
theorem follows_run {r : Regex Leaf} (h : r.anchorFree = true) :
    Follows text r.language ((r.map (Move.of text)).run text.length) := by
  induction r with
  | empty => exact follows_one
  | leaf a =>
      cases a with
      | one s => exact follows_charLanguage s
      | here a => exact nomatch h
  | seq r s ihr ihs =>
      rw [anchorFree, Bool.and_eq_true] at h
      exact (ihr h.1).mul (ihs h.2)
  | alt r s ihr ihs =>
      rw [anchorFree, Bool.and_eq_true] at h
      exact (ihr h.1).add (ihs h.2)
  | times r least most ih =>
      have hr := ih h
      -- the steps that are asked for, then those that are allowed
      cases most with
      | some most => exact (hr.iterate least).mul (hr.spread (most - least))
      | none => exact (hr.iterate least).mul (follows_kstar (hr.spread text.length))

/-- **THE MATCHER ACCEPTS THE LANGUAGE** of an expression without anchors. -/
theorem accepts_iff {r : Regex Leaf} (h : r.anchorFree = true) (text : List Char) :
    r.accepts text = true ↔ text ∈ r.language := by
  rw [accepts, follows_run h]
  constructor
  · rintro ⟨i, hi, w, hw, hprefix, hlength⟩
    obtain rfl : i = 0 := Nat.testBit_one_eq_true_iff_self_eq_zero.mp hi
    -- a word from the first position to the last is the whole text
    rw [Nat.zero_add] at hlength
    rw [List.drop_zero] at hprefix
    rw [← hprefix.eq_of_length hlength.symm]
    exact hw
  · intro hw
    exact ⟨0, rfl, text, hw, List.prefix_rfl, (Nat.zero_add _).symm⟩

end Follows

/-! ## Languages of common expressions -/

section Common

variable {w : List Char}

@[simp] theorem language_seq (r s : Regex Leaf) : (seq r s).language = r.language * s.language :=
  rfl

@[simp] theorem language_alt (r s : Regex Leaf) : (alt r s).language = r.language + s.language :=
  rfl

/-- A power of a set is the texts of this length over the set. -/
theorem mem_charLanguage_pow_iff {s : CharSet} {n : Nat} :
    w ∈ charLanguage s ^ n ↔ w.length = n ∧ ∀ c ∈ w, s.contains c.toNat = true := by
  induction n generalizing w with
  | zero =>
      rw [pow_zero, Language.mem_one, List.length_eq_zero_iff]
      constructor
      · rintro rfl
        exact ⟨rfl, fun c hc => nomatch hc⟩
      · exact And.left
  | succ n ih =>
      rw [pow_succ', Language.mem_mul]
      constructor
      · rintro ⟨_, ⟨c, hc, rfl⟩, v, hv, rfl⟩
        obtain ⟨rfl, hall⟩ := ih.mp hv
        exact ⟨rfl, List.forall_mem_cons.mpr ⟨hc, hall⟩⟩
      · rintro ⟨hlength, hall⟩
        obtain ⟨c, v, rfl⟩ := List.exists_cons_of_length_eq_add_one hlength
        rw [List.forall_mem_cons] at hall
        rw [List.length_cons] at hlength
        exact ⟨[c], ⟨c, hall.1, rfl⟩, v, ih.mpr ⟨Nat.succ.inj hlength, hall.2⟩, rfl⟩

/-- Characters of a set, in a number between two bounds. -/
theorem mem_language_times_one_iff {s : CharSet} {least most : Nat} (h : least ≤ most) :
    w ∈ (times (one s) least (some most)).language
      ↔ least ≤ w.length ∧ w.length ≤ most ∧ ∀ c ∈ w, s.contains c.toNat = true := by
  rw [mem_language_times_iff h]
  constructor
  · rintro ⟨n, hl, hm, hw⟩
    obtain ⟨rfl, hall⟩ := mem_charLanguage_pow_iff.mp hw
    exact ⟨hl, hm, hall⟩
  · rintro ⟨hl, hm, hall⟩
    exact ⟨w.length, hl, hm, mem_charLanguage_pow_iff.mpr ⟨rfl, hall⟩⟩

/-- Characters of a set, at least one. -/
theorem mem_language_many1_one_iff {s : CharSet} :
    w ∈ (many1 (one s)).language ↔ w ≠ [] ∧ ∀ c ∈ w, s.contains c.toNat = true := by
  show w ∈ charLanguage s ^ 1 * KStar.kstar (charLanguage s) ↔ _
  rw [Language.mem_mul]
  constructor
  · rintro ⟨u, hu, v, hv, rfl⟩
    obtain ⟨hlength, hall⟩ := mem_charLanguage_pow_iff.mp hu
    obtain ⟨k, -, hk⟩ := mem_one_add_pow_iff.mp ((mem_kstar_iff_of_length_le le_rfl).mp hv)
    obtain ⟨-, hall'⟩ := mem_charLanguage_pow_iff.mp hk
    refine ⟨fun h => ?_, List.forall_mem_append.mpr ⟨hall, hall'⟩⟩
    -- the first character is there, so the text is not empty
    rw [(List.append_eq_nil_iff.mp h).1] at hlength
    exact nomatch hlength
  · rintro ⟨hne, hall⟩
    cases w with
    | nil => exact absurd rfl hne
    | cons c v =>
        rw [List.forall_mem_cons] at hall
        refine ⟨[c], mem_charLanguage_pow_iff.mpr ⟨rfl, List.forall_mem_singleton.mpr hall.1⟩, v,
          ?_, rfl⟩
        refine (mem_kstar_iff_of_length_le le_rfl).mpr (mem_one_add_pow_iff.mpr ?_)
        exact ⟨v.length, le_rfl, mem_charLanguage_pow_iff.mpr ⟨rfl, hall.2⟩⟩

/-- A word of a language, a text, and a word of another language. -/
theorem mem_mul_singleton_mul_iff {L M : Language Char} {t : List Char} :
    w ∈ L * ({t} * M) ↔ ∃ u ∈ L, ∃ v ∈ M, w = u ++ (t ++ v) := by
  constructor
  · rintro ⟨u, hu, _, ⟨_, rfl, v, hv, rfl⟩, rfl⟩
    exact ⟨u, hu, v, hv, rfl⟩
  · rintro ⟨u, hu, v, hv, rfl⟩
    exact ⟨u, hu, t ++ v, ⟨t, rfl, v, hv, rfl⟩, rfl⟩

/-- A character of a set, and a word of a language. -/
theorem mem_one_mul_iff {s : CharSet} {M : Language Char} :
    w ∈ (one s).language * M ↔ ∃ c, s.contains c.toNat = true ∧ ∃ v ∈ M, w = c :: v := by
  constructor
  · rintro ⟨_, ⟨c, hc, rfl⟩, v, hv, rfl⟩
    exact ⟨c, hc, v, hv, rfl⟩
  · rintro ⟨c, hc, v, hv, rfl⟩
    exact ⟨[c], ⟨c, hc, rfl⟩, v, hv, rfl⟩

/-- Words of a language, a number of them with a character between each two. -/
theorem mem_separated_iff {A : Language Char} {c : Char} {n : Nat} :
    w ∈ A * ({[c]} * A) ^ n
      ↔ ∃ ws : List (List Char), ws.length = n + 1 ∧ (∀ u ∈ ws, u ∈ A) ∧ w = [c].intercalate ws := by
  induction n generalizing w with
  | zero =>
      rw [pow_zero, mul_one]
      constructor
      · intro h
        exact ⟨[w], rfl, List.forall_mem_singleton.mpr h, (List.intercalate_singleton).symm⟩
      · rintro ⟨ws, hlength, hws, rfl⟩
        obtain ⟨u, rfl⟩ := List.length_eq_one_iff.mp hlength
        rw [List.intercalate_singleton]
        exact hws u List.mem_cons_self
  | succ n ih =>
      rw [pow_succ', mul_assoc, Language.mem_mul]
      constructor
      · rintro ⟨u, hu, _, ⟨_, rfl, v, hv, rfl⟩, rfl⟩
        obtain ⟨ws, hlength, hws, rfl⟩ := ih.mp hv
        -- a separator stands between two pieces, so the rest must start with one
        obtain ⟨x, xs, rfl⟩ := List.exists_cons_of_length_eq_add_one hlength
        refine ⟨u :: x :: xs, congrArg Nat.succ hlength, List.forall_mem_cons.mpr ⟨hu, hws⟩, ?_⟩
        rw [List.intercalate_cons_cons, List.append_assoc]
      · rintro ⟨ws, hlength, hws, rfl⟩
        obtain ⟨u, rest, rfl⟩ := List.exists_cons_of_length_eq_add_one hlength
        obtain ⟨x, xs, rfl⟩ := List.exists_cons_of_length_eq_add_one (Nat.succ.inj hlength)
        rw [List.forall_mem_cons] at hws
        refine ⟨u, hws.1, _, ⟨_, rfl, _, ih.mpr ⟨x :: xs, Nat.succ.inj hlength, hws.2, rfl⟩, rfl⟩, ?_⟩
        rw [List.intercalate_cons_cons, List.append_assoc]

theorem language_optional (r : Regex Leaf) : (optional r).language = 1 + r.language := by
  rw [optional, language, pow_zero, one_mul, Nat.sub_zero, pow_one]

/-- Expressions in sequence match the product of their languages. -/
theorem language_seqs (rs : List (Regex Leaf)) :
    (seqs rs).language = (rs.map language).prod := by
  induction rs with
  | nil => rfl
  | cons r rs ih =>
      rw [List.map_cons, List.prod_cons, ← ih]
      cases rs with
      | nil => exact (mul_one r.language).symm
      | cons s rs => rfl

/-- A literal matches its own text only. -/
theorem language_literal (s : String) : (literal s).language = {s.toList} := by
  rw [literal, language_seqs]
  induction s.toList with
  | nil => rfl
  | cons c cs ih =>
      rw [List.map_cons, List.map_cons, List.prod_cons, ih]
      ext w
      rw [Language.mem_mul]
      constructor
      · rintro ⟨_, ⟨d, hd, rfl⟩, _, rfl, rfl⟩
        rw [CharSet.contains_singleton_iff.mp hd]
        rfl
      · rintro rfl
        exact ⟨[c], ⟨c, CharSet.contains_singleton_iff.mpr rfl, rfl⟩, cs, rfl, rfl⟩

theorem language_exactly (r : Regex Leaf) (n : Nat) : (exactly r n).language = r.language ^ n := by
  rw [exactly, language, Nat.sub_self, pow_zero, mul_one]

/-- So many characters of a set. -/
theorem mem_language_exactly_one_iff {s : CharSet} {n : Nat} {w : List Char} :
    w ∈ (exactly (one s) n).language ↔ w.length = n ∧ ∀ c ∈ w, s.contains c.toNat = true := by
  rw [language_exactly]
  exact mem_charLanguage_pow_iff

end Common

end Regex

end RuleTree
