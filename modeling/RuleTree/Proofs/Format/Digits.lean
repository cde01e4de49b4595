import RuleTree.Proofs.Pattern.Language
import RuleTree.Format.Identifier
import RuleTree.Number.Read
/-! # Decimal digits and signs

    What decimal digits write (`decimal`), how they are read
    (`digitsValue?_eq`), and the texts of at least one of them (`IsDigits`),
    which expressions spell as a repetition; and the sign that may stand
    before a number (`Sign`). -/

namespace RuleTree.Format

/-- The sign of a number, which may be left out. -/
inductive Sign where
  | omitted
  | plus
  | minus

namespace Sign

/-- How a sign is written. -/
def text : Sign → List Char
  | omitted => []
  | plus => ['+']
  | minus => ['-']

/-- Whether the sign makes a number negative. -/
def isNegative : Sign → Bool
  | minus => true
  | _ => false

end Sign

/-- The number that decimal digits write. -/
def decimal (digits : List Char) : Nat :=
  digits.foldl (fun n c => n * 10 + (c.toNat - '0'.toNat)) 0

/-- Decimal digits, at least one. -/
structure IsDigits (w : List Char) : Prop where
  ne_nil : w ≠ []
  all : ∀ c ∈ w, c.isDigit = true

instance (w : List Char) : Decidable (IsDigits w) :=
  decidable_of_iff (w ≠ [] ∧ w.all Char.isDigit = true)
    ⟨fun h => ⟨h.1, List.all_eq_true.mp h.2⟩, fun h => ⟨h.1, List.all_eq_true.mpr h.2⟩⟩

/-- The texts of at least one decimal digit. -/
def digits : Language Char := {w | IsDigits w}

section Digits

variable {p : List Char}

/-- A decimal digit has its own value, below ten. -/
theorem digitValue?_of_isDigit {c : Char} (h : c.isDigit = true) :
    Number.digitValue? c = some (c.toNat - '0'.toNat) ∧ c.toNat - '0'.toNat < 10 := by
  rw [Char.isDigit, Bool.and_eq_true, decide_eq_true_iff, decide_eq_true_iff] at h
  refine ⟨if_pos ⟨h.1, h.2⟩, ?_⟩
  have hle : c.toNat ≤ '9'.toNat := UInt32.le_iff_toNat_le.mp h.2
  have hnine : '9'.toNat = '0'.toNat + 9 := by decide
  omega

/-- Decimal digits are read from the left, each one shifting what came
    before. -/
theorem digitsValue?_eq (h : ∀ c ∈ p, c.isDigit = true) (acc : Nat) :
    Number.digitsValue? 10 acc p
      = some (p.foldl (fun n c => n * 10 + (c.toNat - '0'.toNat)) acc) := by
  induction p generalizing acc with
  | nil => rfl
  | cons c p ih =>
      rw [List.forall_mem_cons] at h
      obtain ⟨hvalue, hlt⟩ := digitValue?_of_isDigit h.1
      rw [Number.digitsValue?, hvalue]
      show (if _ then _ else _) = _
      rw [if_pos hlt, ih h.2]
      rfl

/-- Digits behind others shift them by as many places. -/
theorem decimal_append (p q : List Char) :
    decimal (p ++ q) = decimal p * 10 ^ q.length + decimal q := by
  have hfrom (acc : Nat) : q.foldl (fun n c => n * 10 + (c.toNat - '0'.toNat)) acc
      = acc * 10 ^ q.length + decimal q := by
    induction q using List.reverseRecOn with
    | nil => exact (Nat.mul_one acc).symm
    | append_singleton q c ih =>
        rw [decimal, List.foldl_append, List.foldl_append, List.foldl_cons, List.foldl_nil,
          List.foldl_cons, List.foldl_nil, ih, ← decimal, List.length_append, Nat.pow_add,
          Nat.add_mul, Nat.mul_assoc, Nat.add_assoc]
        rfl
  rw [decimal, List.foldl_append, hfrom]
  rfl

theorem decimal_singleton (c : Char) : decimal [c] = c.toNat - '0'.toNat := by
  rw [decimal, List.foldl_cons, List.foldl_nil, Nat.zero_mul, Nat.zero_add]

/-- A number has no more digits than the text that writes it. -/
theorem decimal_lt (h : ∀ c ∈ p, c.isDigit = true) : decimal p < 10 ^ p.length := by
  induction p using List.reverseRecOn with
  | nil => exact Nat.one_pos
  | append_singleton p c ih =>
      rw [List.forall_mem_append, List.forall_mem_singleton] at h
      have hlt := (digitValue?_of_isDigit h.2).2
      have hp := ih h.1
      rw [decimal_append, List.length_append, List.length_singleton, Nat.pow_one,
        decimal_singleton, Nat.pow_succ]
      omega

theorem le_toNat_of_isDigit {c : Char} (h : c.isDigit = true) : '0'.toNat ≤ c.toNat := by
  rw [Char.isDigit, Bool.and_eq_true, decide_eq_true_iff] at h
  exact UInt32.le_iff_toNat_le.mp h.1

/-- As many digits write different numbers. -/
theorem eq_of_decimal_eq {q : List Char} (hp : ∀ c ∈ p, c.isDigit = true)
    (hq : ∀ c ∈ q, c.isDigit = true) (hlength : p.length = q.length)
    (h : decimal p = decimal q) : p = q := by
  induction p using List.reverseRecOn generalizing q with
  | nil => exact (List.length_eq_zero_iff.mp hlength.symm).symm
  | append_singleton p c ih =>
      rw [List.length_append, List.length_singleton] at hlength
      rcases List.eq_nil_or_concat' q with rfl | ⟨q, d, rfl⟩
      · exact nomatch hlength
      · rw [List.forall_mem_append, List.forall_mem_singleton] at hp hq
        rw [List.length_append, List.length_singleton, Nat.add_right_cancel_iff] at hlength
        simp only [decimal_append, decimal_singleton, List.length_singleton, Nat.pow_one] at h
        have hc := (digitValue?_of_isDigit hp.2).2
        have hd := (digitValue?_of_isDigit hq.2).2
        have hc' := le_toNat_of_isDigit hp.2
        have hd' := le_toNat_of_isDigit hq.2
        -- the last digits are the remainders by ten
        have hinit : decimal p = decimal q := by omega
        have hlast : c.toNat = d.toNat := by omega
        rw [ih hp.1 hq.1 hlength hinit, Char.toNat_inj.mp hlast]

/-- Digits are read as the library reads them. -/
theorem decimal_eq_ofDigitChars (ds : List Char) : decimal ds = Nat.ofDigitChars 10 ds 0 := by
  simp only [decimal, Nat.ofDigitChars_eq_foldl, Nat.mul_comm]

/-- The set of digits holds the decimal digits of ASCII and no others. -/
theorem contains_digitRange_iff {c : Char} :
    digitRange.contains c.toNat = true ↔ c.isDigit = true := by
  simp only [digitRange, CharSet.contains_range_iff, Char.isDigit, Bool.and_eq_true,
    decide_eq_true_iff, Char.le_def, ge_iff_le]

/-- One or more characters of the digit set are a number in digits. -/
theorem language_digits : (Regex.many1 (.one digitRange)).language = digits := by
  ext w
  rw [Regex.mem_language_many1_one_iff]
  simp only [contains_digitRange_iff]
  constructor
  · rintro ⟨hne, hall⟩
    exact ⟨hne, hall⟩
  · rintro ⟨hne, hall⟩
    exact ⟨hne, hall⟩

end Digits

end RuleTree.Format
