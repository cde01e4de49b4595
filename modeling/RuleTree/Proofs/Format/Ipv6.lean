import RuleTree.Proofs.Format.Network
import RuleTree.Proofs.Lists
import RuleTree.Pattern.Escape
/-! # Addresses of version 6

    The notation of addresses as languages, and what the validators make of
    it.

    * `standard`: eight groups, or at most seven around a double colon;
    * `language_ipv6Regex`: the alternatives of the expression, each as a
      number of groups or as a rectangle of numbers of groups before and
      after the double colon.  The rectangles tile all splits but one, and
      the alternative that should be that one asks for a single colon;
    * texts determine their groups (`eq_of_mem_plain`,
      `eq_of_mem_shortened`), so that the difference from the notation can
      be told exactly;
    * `validators_meet_notation`: both validators against the notation. -/

namespace RuleTree.Format.Ipv6

/-! ## The notation -/

/-- One to four hexadecimal digits. -/
structure IsGroup (g : List Char) : Prop where
  nonempty : 1 ≤ g.length
  atMostFour : g.length ≤ 4
  hexadecimal : ∀ c ∈ g, Pattern.isHexDigit c = true

instance (g : List Char) : Decidable (IsGroup g) :=
  decidable_of_iff (1 ≤ g.length ∧ g.length ≤ 4 ∧ g.all Pattern.isHexDigit = true)
    ⟨fun h => ⟨h.1, h.2.1, List.all_eq_true.mp h.2.2⟩,
      fun h => ⟨h.1, h.2, List.all_eq_true.mpr h.3⟩⟩

/-- The texts of `n` groups between single colons. -/
def plain (n : Nat) : Language Char :=
  {w | ∃ groups : List (List Char),
    groups.length = n ∧ (∀ g ∈ groups, IsGroup g) ∧ w = [':'].intercalate groups}

/-- Texts of groups between single colons, from `least` to `most` groups. -/
def between (least most : Nat) : Language Char :=
  {w | ∃ n, least ≤ n ∧ n ≤ most ∧ w ∈ plain n}

/-- The texts with `l` groups before a double colon and `r` groups after
    it. -/
def shortened (l r : Nat) : Language Char := plain l * {"::".toList} * plain r

/-- Eight groups, or a double colon for those that are left out. -/
def standard : Language Char :=
  {w | w ∈ plain 8 ∨ ∃ l r, l + r ≤ 7 ∧ w ∈ shortened l r}

/-- The texts that the validator takes for what they are not: too few
    groups, and a double colon between one group and six. -/
def misjudged : Language Char :=
  {w | w ∈ between 2 7 ∨ w ∈ shortened 1 6}

section Plain

variable {n : Nat} {g w : List Char}

/-- Groups between colons, with each group checked by evaluation. -/
theorem mem_plain_of_all (groups : List (List Char))
    (h : (groups.all fun g => decide (IsGroup g)) = true) :
    [':'].intercalate groups ∈ plain groups.length :=
  ⟨groups, rfl, fun g hg => of_decide_eq_true (List.all_eq_true.mp h g hg), rfl⟩

/-- No groups are written as nothing. -/
theorem mem_plain_zero_iff : w ∈ plain 0 ↔ w = [] := by
  constructor
  · rintro ⟨groups, hlength, -, rfl⟩
    rw [List.length_eq_zero_iff.mp hlength]
    rfl
  · rintro rfl
    exact ⟨[], rfl, fun g hg => (nomatch hg), rfl⟩

/-- One group is written without a colon. -/
theorem mem_plain_one_iff : w ∈ plain 1 ↔ IsGroup w := by
  constructor
  · rintro ⟨groups, hlength, hgroups, rfl⟩
    obtain ⟨g, rfl⟩ := List.length_eq_one_iff.mp hlength
    rw [List.intercalate_singleton]
    exact hgroups g List.mem_cons_self
  · intro h
    exact ⟨[w], rfl, List.forall_mem_singleton.mpr h, (List.intercalate_singleton).symm⟩

/-- The first of several groups is written before a colon and the others. -/
theorem mem_plain_succ_iff :
    w ∈ plain (n + 2) ↔ ∃ g v, IsGroup g ∧ v ∈ plain (n + 1) ∧ w = g ++ ':' :: v := by
  constructor
  · rintro ⟨groups, hlength, hgroups, rfl⟩
    obtain ⟨g, h, gs, rfl⟩ : ∃ g h gs, groups = g :: h :: gs := by
      obtain ⟨g, rest, rfl⟩ := List.exists_cons_of_length_eq_add_one hlength
      obtain ⟨h, gs, rfl⟩ := List.exists_cons_of_length_eq_add_one (Nat.succ.inj hlength)
      exact ⟨g, h, gs, rfl⟩
    rw [List.forall_mem_cons] at hgroups
    refine ⟨g, _, hgroups.1, ⟨h :: gs, Nat.succ.inj hlength, hgroups.2, rfl⟩, ?_⟩
    rw [List.intercalate_cons_cons, List.append_assoc]
    rfl
  · rintro ⟨g, _, hg, ⟨groups, hlength, hgroups, rfl⟩, rfl⟩
    obtain ⟨h, gs, rfl⟩ := List.exists_cons_of_length_eq_add_one hlength
    refine ⟨g :: h :: gs, congrArg Nat.succ hlength, List.forall_mem_cons.mpr ⟨hg, hgroups⟩, ?_⟩
    rw [List.intercalate_cons_cons, List.append_assoc]
    rfl

end Plain

/-- The text of a colon. -/
def colon : Language Char := {":".toList}

theorem plain_zero : plain 0 = 1 := by
  ext w
  exact mem_plain_zero_iff

/-- Several groups are one, a colon and the others. -/
theorem plain_succ (n : Nat) : plain (n + 2) = plain 1 * (colon * plain (n + 1)) := by
  ext w
  rw [mem_plain_succ_iff, Language.mem_mul]
  constructor
  · rintro ⟨g, v, hg, hv, rfl⟩
    exact ⟨g, mem_plain_one_iff.mpr hg, ':' :: v, Language.append_mem_mul (a := [':']) rfl hv, rfl⟩
  · rintro ⟨g, hg, _, hcv, rfl⟩
    obtain ⟨_, rfl, v, hv, rfl⟩ := Language.mem_mul.mp hcv
    exact ⟨g, v, mem_plain_one_iff.mp hg, hv, rfl⟩

/-- A colon joins two stretches of groups to one. -/
theorem plain_mul (m n : Nat) :
    plain (m + 1) * (colon * plain (n + 1)) = plain (m + n + 2) := by
  induction m with
  | zero => rw [Nat.zero_add, Nat.zero_add, plain_succ]
  | succ m ih =>
      rw [plain_succ, mul_assoc, mul_assoc, ih, Nat.add_right_comm m 1 n, ← plain_succ]

/-- Two colons stand between the groups on the left and those on the right.
    -/
theorem shortened_eq (l r : Nat) : shortened l r = plain l * colon * (colon * plain r) := by
  have h : ({"::".toList} : Language Char) = colon * colon := by
    ext w
    constructor
    · rintro rfl
      exact ⟨[':'], rfl, [':'], rfl, rfl⟩
    · rintro ⟨_, rfl, _, rfl, rfl⟩
      rfl
  rw [shortened, h]
  simp only [mul_assoc]

/-! ## The expression -/

/-- The set of a group holds the hexadecimal digits. -/
theorem contains_hexSet_iff {c : Char} :
    hexSet.contains c.toNat = true ↔ Pattern.isHexDigit c = true := by
  show (digitRange.contains c.toNat
    || ((CharSet.range 'a' 'f').contains c.toNat
      || ((CharSet.range 'A' 'F').contains c.toNat || false))) = true ↔ _
  simp only [Pattern.isHexDigit, digitRange, Bool.or_eq_true, Bool.and_eq_true,
    decide_eq_true_iff, CharSet.contains_range_iff, Bool.false_eq_true, or_false, or_assoc]

/-- A group of the expression is one group. -/
theorem language_groupRegex : groupRegex.language = plain 1 := by
  ext w
  rw [mem_plain_one_iff, groupRegex, Regex.mem_language_times_one_iff (by decide)]
  simp only [contains_hexSet_iff]
  constructor
  · rintro ⟨hl, hm, hall⟩
    exact ⟨hl, hm, hall⟩
  · rintro ⟨hl, hm, hall⟩
    exact ⟨hl, hm, hall⟩

/-- Groups that are each followed by a colon. -/
theorem pow_before (n : Nat) : (plain 1 * colon) ^ (n + 1) = plain (n + 1) * colon := by
  induction n with
  | zero => rw [pow_one]
  | succ n ih =>
      rw [pow_succ', ih, plain_succ]
      simp only [mul_assoc]

/-- Groups that are each preceded by a colon. -/
theorem pow_after (n : Nat) : (colon * plain 1) ^ (n + 1) = colon * plain (n + 1) := by
  induction n with
  | zero => rw [pow_one]
  | succ n ih =>
      rw [pow_succ', ih, plain_succ]
      simp only [mul_assoc]

/-- A range of one number of groups. -/
theorem between_self (n : Nat) : between n n = plain n := by
  ext w
  constructor
  · rintro ⟨k, hl, hm, hw⟩
    rw [Nat.le_antisymm hm hl] at hw
    exact hw
  · intro hw
    exact ⟨n, Nat.le_refl n, Nat.le_refl n, hw⟩

/-- A range with no groups as well. -/
theorem between_one_add_zero (n : Nat) : between 1 n + plain 0 = between 0 n := by
  ext w
  rw [Language.mem_add]
  constructor
  · rintro (⟨k, -, hm, hw⟩ | hw)
    · exact ⟨k, Nat.zero_le k, hm, hw⟩
    · exact ⟨0, Nat.le_refl 0, Nat.zero_le n, hw⟩
  · rintro ⟨_ | k, -, hm, hw⟩
    · exact Or.inr hw
    · exact Or.inl ⟨k + 1, Nat.le_add_left 1 k, hm, hw⟩

/-- One more group in front raises both ends of the range. -/
theorem plain_one_mul_between (n : Nat) :
    plain 1 * (colon * between 1 n) = between 2 (n + 1) := by
  ext w
  constructor
  · rintro ⟨u, hu, _, ⟨c, hc, v, ⟨k, hl, hm, hv⟩, rfl⟩, rfl⟩
    obtain ⟨k, rfl⟩ := Nat.exists_eq_add_of_le' hl
    refine ⟨k + 2, by omega, by omega, ?_⟩
    rw [plain_succ]
    exact Language.append_mem_mul hu (Language.append_mem_mul hc hv)
  · rintro ⟨k, hl, hm, hw⟩
    obtain ⟨k, rfl⟩ := Nat.exists_eq_add_of_le' hl
    rw [plain_succ] at hw
    obtain ⟨u, hu, _, ⟨c, hc, v, hv, rfl⟩, rfl⟩ := hw
    exact Language.append_mem_mul hu
      (Language.append_mem_mul hc ⟨k + 1, by omega, by omega, hv⟩)

/-- At most `n` groups, each with a colon after it. -/
def beforeRegex (n : Nat) : Regex Leaf := .times (.seq groupRegex (.literal ":")) 1 (some n)

/-- At most `n` groups, each with a colon before it. -/
def afterRegex (n : Nat) : Regex Leaf := .times (.seq (.literal ":") groupRegex) 1 (some n)

theorem language_colon : (Regex.literal ":").language = colon := Regex.language_literal ":"

/-- Repetitions whose powers are groups between two fixed languages. -/
theorem language_times_eq {r : Regex Leaf} {A B : Language Char} {n : Nat} (h : 1 ≤ n)
    (hpow : ∀ k, r.language ^ (k + 1) = A * (plain (k + 1) * B)) :
    (Regex.times r 1 (some n)).language = A * (between 1 n * B) := by
  ext w
  rw [Regex.mem_language_times_iff h]
  constructor
  · rintro ⟨k, hl, hm, hw⟩
    obtain ⟨k, rfl⟩ := Nat.exists_eq_add_of_le' hl
    rw [hpow] at hw
    obtain ⟨a, ha, _, ⟨u, hu, b, hb, rfl⟩, rfl⟩ := hw
    exact ⟨a, ha, _, ⟨u, ⟨k + 1, hl, hm, hu⟩, b, hb, rfl⟩, rfl⟩
  · rintro ⟨a, ha, _, ⟨u, ⟨k, hl, hm, hu⟩, b, hb, rfl⟩, rfl⟩
    obtain ⟨k, rfl⟩ := Nat.exists_eq_add_of_le' hl
    refine ⟨k + 1, hl, hm, ?_⟩
    rw [hpow]
    exact Language.append_mem_mul ha (Language.append_mem_mul hu hb)

/-- Up to `n` groups before a colon. -/
theorem language_beforeRegex {n : Nat} (h : 1 ≤ n) :
    (beforeRegex n).language = between 1 n * colon := by
  rw [beforeRegex, language_times_eq (A := 1) (B := colon) h, one_mul]
  intro k
  rw [Regex.language_seq, language_groupRegex, language_colon, pow_before, one_mul]

/-- Up to `n` groups after a colon. -/
theorem language_afterRegex {n : Nat} (h : 1 ≤ n) :
    (afterRegex n).language = colon * between 1 n := by
  rw [afterRegex, language_times_eq (A := colon) (B := 1) h, mul_one]
  intro k
  rw [Regex.language_seq, language_groupRegex, language_colon, pow_after, mul_one]

/-- Shortened texts whose numbers of groups lie in a rectangle. -/
def rectangle (l l' r r' : Nat) : Language Char :=
  between l l' * (colon * (colon * between r r'))

/-- A rectangle of shortened forms: the groups on either side range over an
    interval. -/
theorem mem_rectangle_iff {l l' r r' : Nat} {w : List Char} :
    w ∈ rectangle l l' r r'
      ↔ ∃ m n, ((l ≤ m ∧ m ≤ l') ∧ r ≤ n ∧ n ≤ r') ∧ w ∈ shortened m n := by
  simp only [rectangle, shortened_eq, Language.mem_mul, mul_assoc]
  constructor
  · rintro ⟨u, ⟨m, hm, hm', hu⟩, _, ⟨c, hc, _, ⟨d, hd, v, ⟨n, hn, hn', hv⟩, rfl⟩, rfl⟩, rfl⟩
    exact ⟨m, n, ⟨⟨hm, hm'⟩, hn, hn'⟩, u, hu, _, ⟨c, hc, _, ⟨d, hd, v, hv, rfl⟩, rfl⟩, rfl⟩
  · rintro ⟨m, n, ⟨⟨hm, hm'⟩, hn, hn'⟩, u, hu, _, ⟨c, hc, _, ⟨d, hd, v, hv, rfl⟩, rfl⟩, rfl⟩
    exact ⟨u, ⟨m, hm, hm', hu⟩, _, ⟨c, hc, _, ⟨d, hd, v, ⟨n, hn, hn', hv⟩, rfl⟩, rfl⟩, rfl⟩

/-- The alternatives in their order: eight groups, then six rectangles, then
    the alternative with single colons only, then nothing before the double
    colon. -/
theorem language_ipv6Regex :
    ipv6Regex.language = plain 8 + (rectangle 1 7 0 0 + (rectangle 1 6 1 1 + (rectangle 1 5 1 2
      + (rectangle 1 4 1 3 + (rectangle 1 3 1 4 + (rectangle 1 2 1 5
      + (between 2 7 + rectangle 0 0 0 7))))))) := by
  have hfull : (Regex.seq (.exactly (.seq groupRegex (.literal ":")) 7) groupRegex).language
      = plain 8 := by
    rw [Regex.language_seq, Regex.language_exactly, Regex.language_seq, language_groupRegex,
      language_colon, pow_before, mul_assoc, plain_mul]
  have hlast : (Regex.seq (beforeRegex 7) (.literal ":")).language = rectangle 1 7 0 0 := by
    rw [Regex.language_seq, language_beforeRegex (by decide), language_colon, rectangle,
      between_self, plain_zero, mul_one, mul_assoc]
  have hone : (Regex.seqs [beforeRegex 6, .literal ":", groupRegex]).language
      = rectangle 1 6 1 1 := by
    show _ * (_ * groupRegex.language) = _
    rw [language_beforeRegex (by decide), language_colon, language_groupRegex, rectangle,
      between_self, mul_assoc]
  have hinner (m n : Nat) (hm : 1 ≤ m) (hn : 1 ≤ n) :
      (Regex.seq (beforeRegex m) (afterRegex n)).language = rectangle 1 m 1 n := by
    rw [Regex.language_seq, language_beforeRegex hm, language_afterRegex hn, rectangle, mul_assoc]
  -- one colon is missing here: the group and the first of the others are
  -- joined by a single one
  have hsingle : (Regex.seq groupRegex (afterRegex 6)).language = between 2 7 := by
    rw [Regex.language_seq, language_groupRegex, language_afterRegex (by decide),
      plain_one_mul_between]
  have hfirst : (Regex.seq (.literal ":") (.alt (afterRegex 7) (.literal ":"))).language
      = rectangle 0 0 0 7 := by
    rw [Regex.language_seq, Regex.language_alt, language_afterRegex (by decide), language_colon,
      rectangle, between_self, ← between_one_add_zero, plain_zero, one_mul, mul_add,
      mul_add, mul_add, mul_one]
  rw [← hfull, ← hlast, ← hone, ← hinner 5 2 (by decide) (by decide),
    ← hinner 4 3 (by decide) (by decide), ← hinner 3 4 (by decide) (by decide),
    ← hinner 2 5 (by decide) (by decide), ← hsingle, ← hfirst]
  -- what is left is the expression as it is written
  rfl

/-- The rectangles tile the splits of at most seven groups, but for one group
    before six. -/
theorem split_iff {l r : Nat} :
    l + r ≤ 7 ∧ ¬(l = 1 ∧ r = 6)
      ↔ ((1 ≤ l ∧ l ≤ 7) ∧ 0 ≤ r ∧ r ≤ 0) ∨ ((1 ≤ l ∧ l ≤ 6) ∧ 1 ≤ r ∧ r ≤ 1)
        ∨ ((1 ≤ l ∧ l ≤ 5) ∧ 1 ≤ r ∧ r ≤ 2) ∨ ((1 ≤ l ∧ l ≤ 4) ∧ 1 ≤ r ∧ r ≤ 3)
        ∨ ((1 ≤ l ∧ l ≤ 3) ∧ 1 ≤ r ∧ r ≤ 4) ∨ ((1 ≤ l ∧ l ≤ 2) ∧ 1 ≤ r ∧ r ≤ 5)
        ∨ ((0 ≤ l ∧ l ≤ 0) ∧ 0 ≤ r ∧ r ≤ 7) := by
  omega

/-- The full form is the last of the range of forms without a double colon.
    -/
theorem mem_between_eight_iff {w : List Char} :
    w ∈ between 2 8 ↔ w ∈ plain 8 ∨ w ∈ between 2 7 := by
  constructor
  · rintro ⟨n, hl, hm, hw⟩
    rcases Nat.lt_or_eq_of_le hm with hlt | rfl
    · exact Or.inr ⟨n, hl, Nat.le_of_lt_succ hlt, hw⟩
    · exact Or.inl hw
  · rintro (hw | ⟨n, hl, hm, hw⟩)
    · exact ⟨8, by decide, Nat.le_refl 8, hw⟩
    · exact ⟨n, hl, Nat.le_succ_of_le hm, hw⟩

/-- The expression takes two to eight groups without a double colon, and up
    to seven around one, save the one form that its alternatives miss. -/
theorem mem_language_ipv6Regex_iff {w : List Char} :
    w ∈ ipv6Regex.language
      ↔ w ∈ between 2 8 ∨ ∃ l r, (l + r ≤ 7 ∧ ¬(l = 1 ∧ r = 6)) ∧ w ∈ shortened l r := by
  simp only [language_ipv6Regex, Language.mem_add, mem_rectangle_iff, split_iff,
    mem_between_eight_iff, or_and_right, exists_or]
  -- both sides list the alternatives, in different orders
  rw [← eq_iff_iff]
  ac_rfl

/-! ## Texts determine their groups -/

/-- The parts of a text between colons, up to the first one without
    characters. -/
def leadingGroups (w : List Char) : List (List Char) :=
  (w.splitOn ':').takeWhile fun g => !g.isEmpty

section Unique

variable {groups : List (List Char)} {l r m n : Nat} {w : List Char}

/-- A group holds nothing but digits. -/
theorem IsGroup.notMem {g : List Char} {c : Char} (h : IsGroup g)
    (hc : Pattern.isHexDigit c = false) : c ∉ g :=
  fun hmem => Bool.false_ne_true (hc.symm.trans (h.hexadecimal c hmem))

/-- A group is not empty. -/
theorem IsGroup.isEmpty_eq_false {g : List Char} (h : IsGroup g) : (!g.isEmpty) = true := by
  rw [Bool.not_eq_true', List.isEmpty_eq_false_iff_exists_mem]
  exact List.length_pos_iff_exists_mem.mp h.nonempty

/-- Splitting at colons gives the groups back, up to the first empty one. -/
theorem takeWhile_splitOn_append (h : ∀ g ∈ groups, IsGroup g) (rest : List (List Char))
    (hrest : (rest.takeWhile fun g => !g.isEmpty) = []) :
    ((([':'].intercalate groups).splitOn ':' ++ rest).takeWhile fun g => !g.isEmpty)
      = groups := by
  by_cases hne : groups = []
  · -- no groups make one part without characters
    rw [hne]
    rfl
  · rw [List.splitOn_intercalate ':' (fun g hg => (h g hg).notMem (by decide)) hne,
      List.takeWhile_append_of_pos fun g hg => (h g hg).isEmpty_eq_false, hrest,
      List.append_nil]

/-- The groups can be read off their text. -/
theorem leadingGroups_intercalate (h : ∀ g ∈ groups, IsGroup g) :
    leadingGroups ([':'].intercalate groups) = groups := by
  have htake := takeWhile_splitOn_append h [] rfl
  rw [List.append_nil] at htake
  exact htake

/-- What stands after a double colon does not count. -/
theorem leadingGroups_append (h : ∀ g ∈ groups, IsGroup g) (v : List Char) :
    leadingGroups ([':'].intercalate groups ++ ':' :: ':' :: v) = groups := by
  rw [leadingGroups, List.splitOn_append_cons_self]
  refine takeWhile_splitOn_append h _ ?_
  rw [← List.nil_append (':' :: v), List.splitOn_append_cons_self, List.splitOn_nil]
  rfl

/-- A shortened form has a double colon between its two stretches. -/
theorem mem_shortened_iff :
    w ∈ shortened l r ↔ ∃ u ∈ plain l, ∃ v ∈ plain r, w = u ++ ':' :: ':' :: v := by
  constructor
  · rintro ⟨_, ⟨u, hu, _, rfl, rfl⟩, v, hv, rfl⟩
    exact ⟨u, hu, v, hv, List.append_assoc u _ v⟩
  · rintro ⟨u, hu, v, hv, rfl⟩
    exact ⟨_, ⟨u, hu, _, rfl, rfl⟩, v, hv, List.append_assoc u _ v⟩

/-- The number of groups can be read off a plain form. -/
theorem eq_of_mem_plain (h : w ∈ plain m) (h' : w ∈ plain n) : m = n := by
  obtain ⟨gs, rfl, hgs, rfl⟩ := h
  obtain ⟨hs, rfl, hhs, heq⟩ := h'
  rw [← leadingGroups_intercalate hgs, heq, leadingGroups_intercalate hhs]

/-- A plain form has no double colon, so it is no shortened one. -/
theorem notMem_shortened_of_mem_plain (h : w ∈ plain n) : w ∉ shortened l r := by
  intro hs
  obtain ⟨_, ⟨ls, rfl, hls, rfl⟩, v, -, heq⟩ := mem_shortened_iff.mp hs
  obtain ⟨gs, rfl, hgs, rfl⟩ := h
  -- both readings begin with the same groups, and one goes on behind them
  have hsame : gs = ls := by
    rw [← leadingGroups_intercalate hgs, heq, leadingGroups_append hls]
  rw [hsame] at heq
  exact absurd (List.self_eq_append_right.mp heq) (List.cons_ne_nil _ _)

/-- Both numbers of groups can be read off a shortened form. -/
theorem eq_of_mem_shortened (h : w ∈ shortened l r) (h' : w ∈ shortened m n) :
    l = m ∧ r = n := by
  obtain ⟨_, ⟨ls, rfl, hls, rfl⟩, v, hv, rfl⟩ := mem_shortened_iff.mp h
  obtain ⟨_, ⟨ms, rfl, hms, rfl⟩, x, hx, heq⟩ := mem_shortened_iff.mp h'
  have hsame : ls = ms := by
    rw [← leadingGroups_append hls v, heq, leadingGroups_append hms]
  rw [hsame] at heq ⊢
  -- what stands before the double colon is the same, so what follows is too
  obtain rfl : v = x :=
    List.cons_inj_right _ |>.mp (List.cons_inj_right _ |>.mp (List.append_cancel_left heq))
  exact ⟨rfl, eq_of_mem_plain hv hx⟩

/-- Two to seven groups without a double colon are no notation of an address.
    -/
theorem notMem_standard_of_mem_between (h : w ∈ between 2 7) : w ∉ standard := by
  obtain ⟨n, -, hn, h⟩ := h
  rintro (h' | ⟨l, r, -, h'⟩)
  · have := eq_of_mem_plain h h'
    omega
  · exact notMem_shortened_of_mem_plain h h'

end Unique

/-! ## The validator -/

/-- What the validator takes for an address: the notation without one split,
    and texts of too few groups. -/
def accepted : Language Char :=
  {w | (w ∈ standard ∧ w ∉ shortened 1 6) ∨ w ∈ between 2 7}

/-- What is accepted is what the expression takes, form by form. -/
theorem mem_accepted_iff {w : List Char} :
    w ∈ accepted
      ↔ w ∈ between 2 8 ∨ ∃ l r, (l + r ≤ 7 ∧ ¬(l = 1 ∧ r = 6)) ∧ w ∈ shortened l r := by
  rw [mem_between_eight_iff]
  constructor
  · rintro (⟨h | ⟨l, r, hsum, h⟩, hsix⟩ | h)
    · exact Or.inl (Or.inl h)
    · refine Or.inr ⟨l, r, ⟨hsum, ?_⟩, h⟩
      rintro ⟨rfl, rfl⟩
      exact hsix h
    · exact Or.inl (Or.inr h)
  · rintro ((h | h) | ⟨l, r, ⟨hsum, hne⟩, h⟩)
    · exact Or.inl ⟨Or.inl h, notMem_shortened_of_mem_plain h⟩
    · exact Or.inr h
    · exact Or.inl ⟨Or.inr ⟨l, r, hsum, h⟩, fun hsix => hne (eq_of_mem_shortened h hsix)⟩

/-- The validator takes the accepted forms and nothing else. -/
theorem isIpv6_iff (s : String) : isIpv6 s = true ↔ s.toList ∈ accepted := by
  rw [mem_accepted_iff, ← mem_language_ipv6Regex_iff]
  exact Regex.accepts_iff rfl s.toList

/-- The validator is right but where it misjudges. -/
theorem accepted_agrees_iff {w : List Char} :
    (w ∈ accepted ↔ w ∈ standard) ↔ w ∉ misjudged := by
  constructor
  · rintro hagree (hfew | hsix)
    · exact notMem_standard_of_mem_between hfew (hagree.mp (Or.inr hfew))
    · rcases hagree.mpr (Or.inr ⟨1, 6, by decide, hsix⟩) with ⟨-, hnot⟩ | ⟨n, -, -, hplain⟩
      · exact hnot hsix
      · exact notMem_shortened_of_mem_plain hplain hsix
  · intro hnot
    constructor
    · rintro (⟨h, -⟩ | hfew)
      · exact h
      · exact absurd (Or.inl hfew) hnot
    · intro h
      exact Or.inl ⟨h, fun hsix => hnot (Or.inr hsix)⟩

/-! ## Network parts -/

section Slash

variable {l n r : Nat} {w : List Char}

theorem slash_notMem_of_mem_plain (h : w ∈ plain n) : '/' ∉ w := by
  obtain ⟨groups, -, hgroups, rfl⟩ := h
  refine notMem_intercalate (by decide) fun g hg => ?_
  exact (hgroups g hg).notMem (by decide)

theorem slash_notMem_of_mem_shortened (h : w ∈ shortened l r) : '/' ∉ w := by
  obtain ⟨u, hu, v, hv, rfl⟩ := mem_shortened_iff.mp h
  rw [List.mem_append, List.mem_cons, List.mem_cons, not_or, not_or, not_or]
  exact ⟨slash_notMem_of_mem_plain hu, by decide, by decide, slash_notMem_of_mem_plain hv⟩

theorem slash_notMem_of_mem_standard : ∀ w ∈ standard, '/' ∉ w := by
  rintro w (h | ⟨l, r, -, h⟩)
  · exact slash_notMem_of_mem_plain h
  · exact slash_notMem_of_mem_shortened h

theorem slash_notMem_of_mem_misjudged : ∀ w ∈ misjudged, '/' ∉ w := by
  rintro w (⟨n, -, -, h⟩ | h)
  · exact slash_notMem_of_mem_plain h
  · exact slash_notMem_of_mem_shortened h

theorem slash_notMem_of_mem_accepted : ∀ w ∈ accepted, '/' ∉ w := by
  rintro w (⟨h, -⟩ | h)
  · exact slash_notMem_of_mem_standard w h
  · exact slash_notMem_of_mem_misjudged w (Or.inl h)

/-- A network is an accepted form, a slash and a length of at most 128. -/
theorem isCidrv6_iff (s : String) : isCidrv6 s = true ↔ s.toList ∈ network 128 accepted :=
  checkNetwork_iff isIpv6_iff slash_notMem_of_mem_accepted s

end Slash

/-- **THE VALIDATORS AND THE NOTATION**: what counts as an address is the
    notation without six groups after one and the double colon, and with
    two to seven groups between single colons; no other text is misjudged,
    alone or before the length of a network part. -/
theorem validators_meet_notation (s : String) :
    (isIpv6 s = true
      ↔ (s.toList ∈ standard ∧ s.toList ∉ shortened 1 6) ∨ s.toList ∈ between 2 7)
    ∧ ((isIpv6 s = true ↔ s.toList ∈ standard) ↔ s.toList ∉ misjudged)
    ∧ (isCidrv6 s = true ↔ s.toList ∈ network 128 accepted)
    ∧ ((isCidrv6 s = true ↔ s.toList ∈ network 128 standard)
        ↔ s.toList ∉ network 128 misjudged) := by
  refine ⟨isIpv6_iff s, ?_, isCidrv6_iff s, ?_⟩
  · rw [isIpv6_iff]
    exact accepted_agrees_iff
  · rw [isCidrv6_iff]
    exact network_agrees_iff slash_notMem_of_mem_accepted slash_notMem_of_mem_standard
      slash_notMem_of_mem_misjudged fun _ => accepted_agrees_iff

/-- Two groups are no address, and one group before six is one. -/
theorem twoGroups_accepted_oneBeforeSix_rejected :
    (isIpv6 "1:2" = true ∧ "1:2".toList ∉ standard)
    ∧ (isIpv6 "1::2:3:4:5:6:7" = false ∧ "1::2:3:4:5:6:7".toList ∈ standard)
    ∧ (isCidrv6 "1:2/64" = true ∧ "1:2/64".toList ∉ network 128 standard) := by
  -- two groups with a single colon between them
  have htwo : "1:2".toList ∈ between 2 7 :=
    ⟨2, by decide, by decide, mem_plain_of_all [['1'], ['2']] rfl⟩
  -- one group, the omission, and six groups
  have hsix : "1::2:3:4:5:6:7".toList ∈ shortened 1 6 :=
    mem_shortened_iff.mpr ⟨"1".toList, mem_plain_of_all [['1']] rfl,
      "2:3:4:5:6:7".toList,
      mem_plain_of_all [['2'], ['3'], ['4'], ['5'], ['6'], ['7']] rfl, rfl⟩
  have hlength : IsNumeral "64".toList ∧ decimal "64".toList ≤ 128 :=
    ⟨⟨by decide, by decide, List.all_eq_true.mp rfl⟩, by decide⟩
  have hsplit : "1:2/64".toList = "1:2".toList ++ '/' :: "64".toList := rfl
  refine ⟨⟨(isIpv6_iff _).mpr (Or.inr htwo), notMem_standard_of_mem_between htwo⟩, ⟨?_, ?_⟩, ?_, ?_⟩
  · rw [Bool.eq_false_iff, Ne, isIpv6_iff]
    rintro (⟨-, hnot⟩ | ⟨n, -, -, hplain⟩)
    · exact hnot hsix
    · exact notMem_shortened_of_mem_plain hplain hsix
  · exact Or.inr ⟨1, 6, by decide, hsix⟩
  · rw [isCidrv6_iff, hsplit, append_mem_network_iff slash_notMem_of_mem_accepted]
    exact ⟨Or.inr htwo, hlength⟩
  · rw [hsplit, append_mem_network_iff slash_notMem_of_mem_standard]
    exact fun h => notMem_standard_of_mem_between htwo h.1

end RuleTree.Format.Ipv6
