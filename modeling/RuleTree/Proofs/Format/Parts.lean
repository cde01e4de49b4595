import Mathlib.Data.List.TakeWhile
import RuleTree.Proofs.Lists
import RuleTree.Proofs.Format.Digits
import RuleTree.Format.Moment
/-! # Parts of dates and times

    What the readers of parts take from a text: as many digits as asked for
    (`takeDigits_eq_some_iff`), a number of at most so many digits behind
    blanks (`of_takeNumber`, `takeNumber_append`), and a year, which may have
    a sign and then any number of digits (`of_takeYear`, `takeYear_append`). -/

namespace RuleTree.Format

open Text (isBlank)

/-! ## Reading parts -/

/-- Decimal digits, as many as given. -/
structure ExactDigits (n : Nat) (ds : List Char) : Prop where
  length : ds.length = n
  all : ∀ c ∈ ds, c.isDigit = true

theorem ExactDigits.isDigits {n : Nat} {ds : List Char} (h : ExactDigits (n + 1) ds) :
    IsDigits ds := ⟨List.ne_nil_of_length_eq_add_one h.length, h.all⟩

section Parts

variable {n v : Nat} {c : Char} {cs bs ds rest : List Char}

theorem not_isDigit_of_isBlank (h : isBlank c = true) : c.isDigit = false := by
  rw [isBlank, List.any_eq_true] at h
  obtain ⟨r, hr, hc⟩ := h
  rw [Bool.and_eq_true, decide_eq_true_iff, decide_eq_true_iff] at hc
  have hapart : ∀ r ∈ Text.blankRanges, r.2 < '0'.toNat ∨ '9'.toNat < r.1 := by decide
  rw [Char.isDigit, Bool.eq_false_iff, Ne, Bool.and_eq_true, decide_eq_true_iff,
    decide_eq_true_iff]
  rintro ⟨hlow, hhigh⟩
  have hlow : '0'.toNat ≤ c.toNat := UInt32.le_iff_toNat_le.mp hlow
  have hhigh : c.toNat ≤ '9'.toNat := UInt32.le_iff_toNat_le.mp hhigh
  rcases hapart r hr with h | h
  · omega
  · omega

/-- A character is taken when the text begins with it. -/
theorem takeChar_eq_some_iff : takeChar c cs = some rest ↔ cs = c :: rest := by
  cases cs with
  | nil => exact iff_of_false nofun nofun
  | cons d cs =>
      rw [takeChar, Option.ite_none_right_eq_some, Option.some_inj, List.cons_eq_cons]

/-- Exactly `n` digits are taken, with the number that they stand for. -/
theorem takeDigits_eq_some_iff :
    takeDigits n cs = some (v, rest)
      ↔ ∃ ds, ExactDigits n ds ∧ cs = ds ++ rest ∧ v = decimal ds := by
  rw [takeDigits, Option.ite_none_right_eq_some, Bool.and_eq_true, decide_eq_true_iff,
    List.all_eq_true]
  constructor
  · rintro ⟨⟨hlength, hall⟩, h⟩
    rw [digitsValue?_eq hall, Option.map_some, Option.some_inj, Prod.mk_inj] at h
    exact ⟨cs.take n, ⟨hlength, hall⟩, by rw [← h.2, List.take_append_drop], h.1.symm⟩
  · rintro ⟨ds, ⟨hlength, hall⟩, rfl, rfl⟩
    rw [List.take_left' hlength, List.drop_left' hlength, digitsValue?_eq hall]
    exact ⟨⟨hlength, hall⟩, rfl⟩

/-- A number that was taken stood behind blanks and had at most `n` digits.
    -/
theorem of_takeNumber (h : takeNumber n cs = some (v, rest)) :
    ∃ bs ds, (∀ b ∈ bs, isBlank b = true) ∧ IsDigits ds ∧ ds.length ≤ n
      ∧ cs = bs ++ (ds ++ rest) ∧ v = decimal ds := by
  rw [takeNumber] at h
  generalize hds : ((cs.dropWhile isBlank).take n).takeWhile Char.isDigit = ds at h
  -- what is cut off are the digits in front, at most n of them
  have hprefix : ds <+: cs.dropWhile isBlank := by
    rw [← hds]
    exact (List.takeWhile_prefix _).trans (List.take_prefix _ _)
  have hall : ∀ c ∈ ds, c.isDigit = true := by
    rw [← hds]
    exact fun c hc => List.mem_takeWhile_imp hc
  have hlength : ds.length ≤ n := by
    rw [← hds]
    exact (List.takeWhile_prefix _).length_le.trans (List.length_take_le _ _)
  split at h
  next => exact nomatch h
  next hne =>
    obtain ⟨tail, htail⟩ := hprefix
    rw [digitsValue?_eq hall, Option.map_some, Option.some_inj, Prod.mk_inj, ← htail,
      List.drop_left] at h
    refine ⟨cs.takeWhile isBlank, ds, fun b hb => List.mem_takeWhile_imp hb,
      ⟨fun hnil => hne (List.isEmpty_iff.mpr hnil), hall⟩, hlength, ?_, h.1.symm⟩
    rw [← h.2, htail, List.takeWhile_append_dropWhile]

/-- Blanks end where digits begin. -/
theorem dropWhile_isBlank_append (hbs : ∀ b ∈ bs, isBlank b = true) (hds : IsDigits ds) :
    (bs ++ (ds ++ rest)).dropWhile isBlank = ds ++ rest := by
  obtain ⟨d, ds', rfl⟩ := List.exists_cons_of_ne_nil hds.ne_nil
  rw [List.dropWhile_append_of_pos hbs, List.cons_append, List.dropWhile_cons_of_neg]
  intro hblank
  exact Bool.false_ne_true
    ((not_isDigit_of_isBlank hblank).symm.trans (hds.all d List.mem_cons_self))

/-- A number of at most `n` digits behind blanks is taken if no digit
    follows. -/
theorem takeNumber_append (hbs : ∀ b ∈ bs, isBlank b = true) (hds : IsDigits ds)
    (hn : ds.length ≤ n) (hrest : rest.takeWhile Char.isDigit = []) :
    takeNumber n (bs ++ (ds ++ rest)) = some (decimal ds, rest) := by
  have htake : ((ds ++ rest).take n).takeWhile Char.isDigit = ds := by
    obtain ⟨k, rfl⟩ := Nat.exists_eq_add_of_le hn
    rw [List.take_length_add_append, List.takeWhile_append_of_pos hds.all, ← List.take_takeWhile,
      hrest, List.take_nil, List.append_nil]
  have hne : ds.isEmpty = false := List.isEmpty_eq_false_iff.mpr hds.ne_nil
  rw [takeNumber, dropWhile_isBlank_append hbs hds, htake, hne, digitsValue?_eq hds.all,
    List.drop_left]
  rfl

/-- Without blanks in front. -/
theorem takeNumber_digits (hds : IsDigits ds) (hn : ds.length ≤ n)
    (hrest : rest.takeWhile Char.isDigit = []) :
    takeNumber n (ds ++ rest) = some (decimal ds, rest) := by
  have hnone : ∀ b ∈ ([] : List Char), isBlank b = true := nofun
  exact takeNumber_append hnone hds hn hrest

end Parts

/-! ## The year -/

section Year

variable {cs bs ds rest : List Char} {year : Int} {negative : Bool} {sign : Sign}

/-- A year that was taken without its sign consisted of digits. -/
theorem of_takeSignless (h : takeYear.takeSignless negative cs = some (year, rest)) :
    ∃ ds, IsDigits ds ∧ cs = ds ++ rest
      ∧ year = if negative then -(decimal ds : Int) else decimal ds := by
  cases cs with
  | nil => exact nomatch h
  | cons c cs =>
      rw [takeYear.takeSignless, Option.ite_none_right_eq_some, Option.map_eq_some_iff] at h
      obtain ⟨hc, ⟨v, rest'⟩, hnumber, heq⟩ := h
      obtain ⟨rfl, rfl⟩ := Prod.mk.inj heq
      obtain ⟨bs, ds, hbs, hds, -, hcs, rfl⟩ := of_takeNumber hnumber
      cases bs with
      | nil => exact ⟨ds, hds, hcs, rfl⟩
      | cons b bs =>
          -- the first character is a digit, so no blanks come first
          rw [List.cons_append, List.cons_eq_cons] at hcs
          have hblank := hbs b List.mem_cons_self
          rw [← hcs.1] at hblank
          rw [not_isDigit_of_isBlank hblank] at hc
          exact nomatch hc

/-- A year that was taken stood behind blanks and a sign, and had at most
    four digits if there was no sign. -/
theorem of_takeYear (h : takeYear cs = some (year, rest)) :
    ∃ (bs : List Char) (sign : Sign) (ds : List Char), (∀ b ∈ bs, isBlank b = true)
      ∧ IsDigits ds ∧ (sign = .omitted → ds.length ≤ 4) ∧ cs = bs ++ (sign.text ++ (ds ++ rest))
      ∧ year = if sign.isNegative then -(decimal ds : Int) else decimal ds := by
  have hblanks : ∀ b ∈ cs.takeWhile isBlank, isBlank b = true :=
    fun b hb => List.mem_takeWhile_imp hb
  have hsplit := List.takeWhile_append_dropWhile (p := isBlank) (l := cs)
  rw [takeYear] at h
  split at h
  -- a sign is taken with as many digits as follow it
  next cs' hdrop =>
    obtain ⟨ds, hds, rfl, rfl⟩ := of_takeSignless h
    rw [hdrop] at hsplit
    exact ⟨_, .minus, ds, hblanks, hds, nofun, hsplit.symm, rfl⟩
  next cs' hdrop =>
    obtain ⟨ds, hds, rfl, rfl⟩ := of_takeSignless h
    rw [hdrop] at hsplit
    exact ⟨_, .plus, ds, hblanks, hds, nofun, hsplit.symm, rfl⟩
  next =>
    obtain ⟨⟨v, rest'⟩, hnumber, heq⟩ := Option.map_eq_some_iff.mp h
    obtain ⟨rfl, rfl⟩ := Prod.mk.inj heq
    obtain ⟨bs, ds, hbs, hds, hlength, hcs, rfl⟩ := of_takeNumber hnumber
    -- without a sign the digits are read like any number, blanks in front included
    refine ⟨cs.takeWhile isBlank ++ bs, .omitted, ds, ?_, hds, fun _ => hlength, ?_, rfl⟩
    · exact List.forall_mem_append.mpr ⟨hblanks, hbs⟩
    · rw [List.append_assoc]
      show cs = cs.takeWhile isBlank ++ (bs ++ (ds ++ rest'))
      rw [← hcs, hsplit]

/-- Digits before a hyphen are taken as a year of the given sign. -/
theorem takeSignless_append (hds : IsDigits ds) :
    takeYear.takeSignless negative (ds ++ '-' :: rest)
      = some (if negative then -(decimal ds : Int) else decimal ds, '-' :: rest) := by
  have hlength : ds.length ≤ (ds ++ '-' :: rest).length := by
    rw [List.length_append]
    omega
  have hnumber : takeNumber (ds ++ '-' :: rest).length (ds ++ '-' :: rest)
      = some (decimal ds, '-' :: rest) := takeNumber_digits hds hlength rfl
  obtain ⟨c, ds, rfl⟩ := List.exists_cons_of_ne_nil hds.ne_nil
  rw [List.cons_append] at hnumber ⊢
  rw [takeYear.takeSignless, if_pos (hds.all c List.mem_cons_self), hnumber]
  rfl

/-- A year behind blanks and a sign is taken, if there are at most four
    digits without a sign. -/
theorem takeYear_append (hbs : ∀ b ∈ bs, isBlank b = true) (hds : IsDigits ds)
    (hlength : sign = .omitted → ds.length ≤ 4) :
    takeYear (bs ++ (sign.text ++ (ds ++ '-' :: rest)))
      = some (if sign.isNegative then -(decimal ds : Int) else decimal ds, '-' :: rest) := by
  -- blanks are skipped, and what follows starts with a sign or a digit
  have hdrop : (bs ++ (sign.text ++ (ds ++ '-' :: rest))).dropWhile isBlank
      = sign.text ++ (ds ++ '-' :: rest) := by
    cases sign with
    | omitted =>
        show (bs ++ (ds ++ '-' :: rest)).dropWhile isBlank = ds ++ '-' :: rest
        exact dropWhile_isBlank_append hbs hds
    | plus => exact List.dropWhile_append_of_pos hbs
    | minus => exact List.dropWhile_append_of_pos hbs
  rw [takeYear, hdrop]
  cases sign with
  | omitted =>
      have hnumber : takeNumber 4 (ds ++ '-' :: rest) = some (decimal ds, '-' :: rest) :=
        takeNumber_digits hds (hlength rfl) rfl
      -- a year without a sign starts with a digit, which is no sign
      obtain ⟨c, ds, rfl⟩ := List.exists_cons_of_ne_nil hds.ne_nil
      have hc := hds.all c List.mem_cons_self
      split
      next heq =>
        obtain ⟨rfl, -⟩ := List.cons.inj heq
        exact absurd hc (by decide)
      next heq =>
        obtain ⟨rfl, -⟩ := List.cons.inj heq
        exact absurd hc (by decide)
      next =>
        show (takeNumber 4 (c :: ds ++ '-' :: rest)).map _ = _
        rw [hnumber]
        rfl
  | plus => exact takeSignless_append hds
  | minus => exact takeSignless_append hds

end Year

end RuleTree.Format
