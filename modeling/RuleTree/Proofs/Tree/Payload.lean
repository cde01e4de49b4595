import RuleTree.Proofs.Lists
import RuleTree.Proofs.Number.Exact
import RuleTree.Tree.Payload
/-! # Payloads of constraints

    What a tree may hold under the key of a constraint, said without the
    readers: `ConstraintKey.Admits`.  Each reader succeeds exactly on its
    payloads, so a constraint is read exactly from what its key admits
    (`exists_ofPayload?_iff`).

    Reading brings every payload into one written form.  A constraint in
    that form is `Writable`, and reading its payload gives it back
    (`ofPayload?_payload`); every constraint that has been read is in that
    form (`writable_of_ofPayload?`). -/

namespace RuleTree

namespace Payload

/-! ## Grammars -/

/-- A truth value. -/
def IsFlag (v : Value) : Prop := ∃ b, v = .bool b

/-- A text. -/
def IsText (v : Value) : Prop := ∃ s, v = .string s

/-- A number that equals an integer from 0 to 2³² - 1. -/
def IsCount (v : Value) : Prop :=
  ∃ x n, v = .number x ∧ n < 2 ^ 32 ∧ x.equals (.ofNat n) = true

/-- An array of two items with the property. -/
def IsPairOf (P : Value → Prop) (v : Value) : Prop :=
  ∃ a b, v = .array [a, b] ∧ P a ∧ P b

/-- A text or a pattern. -/
def IsMatcher (v : Value) : Prop := IsText v ∨ ∃ p, v = .regexp p

/-- A pattern, or the source of one. -/
def IsPattern (v : Value) : Prop :=
  (∃ p, v = .regexp p) ∨ ∃ s p, v = .string s ∧ Pattern.ofSource s "" = .ok p

/-- A text that names a version. -/
def IsVersion (v : Value) : Prop := ∃ u : Format.UuidVersion, v = .string u.text

/-- A boolean, or an object of options. -/
def IsOptions (P : Fields Value → Prop) (v : Value) : Prop :=
  IsFlag v ∨ ∃ fields, v = .object fields ∧ P fields

/-- The option with a name may be absent. -/
def OptionIs (P : Value → Prop) (name : String) (options : Fields Value) : Prop :=
  ∀ v, Fields.get? name options = some v → P v

/-- What has the property, or is undefined. -/
def OrUndefined (P : Value → Prop) (v : Value) : Prop := v = .undefined ∨ P v

end Payload

open Payload

/-- What a tree may hold under the key of a constraint. -/
def ConstraintKey.Admits : ConstraintKey → Value → Prop
  | .same | .bound _ | .differs => fun _ => True
  | .isType | .globalKey => IsText
  | .global | .wellKnown | .format _ => IsFlag
  | .enum => fun v => ∃ vs, v = .array vs
  | .range _ => IsPairOf fun _ => True
  | .length | .lengthBelow | .lengthAbove => IsCount
  | .lengthRange _ => IsPairOf IsCount
  | .pattern => IsPattern
  | .email => IsOptions (OptionIs IsMatcher "domain")
  | .url => IsOptions fun o =>
      OptionIs (OrUndefined IsText) "hostname" o ∧ OptionIs (OrUndefined IsText) "protocol" o
  | .uuid => IsOptions (OptionIs (OrUndefined IsVersion) "version")
  | .symbolDescription => IsMatcher

/-! ## Readers -/

/-- Each version is read from its own text. -/
theorem Format.UuidVersion.ofText?_text (u : UuidVersion) : ofText? u.text = some u := by
  cases u <;> rfl

/-- A text that names a version is the text of that version. -/
theorem Format.UuidVersion.text_of_ofText? {s : String} {u : UuidVersion}
    (h : ofText? s = some u) : u.text = s := by
  have hu := List.find?_some h
  exact eq_of_beq hu

namespace Payload

/-- A flag is read from itself only. -/
theorem bool?_eq_ok_iff {v : Value} {b : Bool} : bool? v = .ok b ↔ v = .bool b := by
  cases v <;> simp [bool?]

/-- A text is read from itself only. -/
theorem text?_eq_ok_iff {v : Value} {s : String} : text? v = .ok s ↔ v = .string s := by
  cases v <;> simp [text?]

/-- A count is read from the numbers that equal it. -/
theorem count?_eq_ok_iff {v : Value} {n : Nat} :
    count? v = .ok n ↔ ∃ x, v = .number x ∧ n < 2 ^ 32 ∧ x.equals (.ofNat n) = true := by
  cases v with
  | number x =>
      rw [count?]
      by_cases hc : (x.isNonneg && x.isIntegral && decide (x.truncate < 2 ^ 32)) = true
      · rw [if_pos hc]
        rw [Bool.and_eq_true, Bool.and_eq_true, decide_eq_true_iff] at hc
        obtain ⟨⟨hnonneg, hint⟩, hlt⟩ := hc
        have hpos := Number.truncate_nonneg hnonneg
        constructor
        · intro h
          obtain rfl := Except.ok.inj h
          have hsmall : x.truncate.toNat < 2 ^ 32 := by omega
          refine ⟨x, rfl, hsmall, ?_⟩
          -- the three tests say that the number is the natural one it is cut down to
          rw [Number.equals_ofNat_iff (by omega)]
          exact ⟨hnonneg, hint, (Int.toNat_of_nonneg hpos).symm⟩
        · rintro ⟨y, hy, hn, heq⟩
          obtain rfl := Value.number.inj hy
          rw [Number.equals_ofNat_iff (by omega)] at heq
          rw [heq.2.2]
          rfl
      · rw [if_neg hc]
        refine iff_of_false nofun ?_
        rintro ⟨y, hy, hn, heq⟩
        obtain rfl := Value.number.inj hy
        rw [Number.equals_ofNat_iff (by omega)] at heq
        obtain ⟨hnonneg, hint, ht⟩ := heq
        refine hc ?_
        rw [hnonneg, hint, ht, Bool.and_self, Bool.true_and, decide_eq_true_iff]
        omega
  | _ =>
      refine iff_of_false nofun ?_
      rintro ⟨x, hx, -⟩
      exact nomatch hx

/-- A count that fits in 32 bits is read back from its number. -/
theorem count?_countValue {n : Nat} (h : n < 2 ^ 32) : count? (countValue n) = .ok n :=
  count?_eq_ok_iff.mpr ⟨.ofNat n, rfl, h, Number.equals_real_self ..⟩

/-- No larger count is rounded to one that a payload can hold. -/
theorem isCount_countValue_iff {n : Nat} : IsCount (countValue n) ↔ n < 2 ^ 32 := by
  constructor
  · rintro ⟨x, m, hx, hm, heq⟩
    obtain rfl := Value.number.inj hx
    obtain rfl := (Number.ofNat_equals_ofNat_iff (by omega)).mp heq
    exact hm
  · exact fun h => ⟨.ofNat n, n, rfl, h, Number.equals_real_self ..⟩

/-- There is one fault of counts. -/
theorem eq_notCount_of_count? {v : Value} {e : PayloadFault} (h : count? v = .error e) :
    e = .notCount := by
  rw [count?.eq_def] at h
  split at h
  · split at h
    · exact nomatch h
    · exact (Except.error.inj h).symm
  · exact (Except.error.inj h).symm

/-- A count beyond 32 bits is not read back. -/
theorem count?_countValue_of_le {n : Nat} (h : 2 ^ 32 ≤ n) :
    count? (countValue n) = .error .notCount := by
  cases hn : count? (countValue n) with
  | ok m =>
      obtain ⟨x, hx⟩ := count?_eq_ok_iff.mp hn
      exact absurd (isCount_countValue_iff.mp ⟨x, m, hx⟩) (Nat.not_lt.mpr h)
  | error e => rw [eq_notCount_of_count? hn]

/-- Two items are read from an array of just these. -/
theorem pair?_eq_ok_iff {v a b : Value} : pair? v = .ok (a, b) ↔ v = .array [a, b] := by
  cases v with
  | array items =>
      match items with
      | [c, d] => simp [pair?]
      | [] | [_] | _ :: _ :: _ :: _ => simp [pair?]
  | _ => simp [pair?]

/-- Two counts are read from an array of just these. -/
theorem countPair?_eq_ok_iff {v : Value} {m n : Nat} :
    countPair? v = .ok (m, n)
      ↔ ∃ a b, v = .array [a, b] ∧ count? a = .ok m ∧ count? b = .ok n := by
  simp only [← pair?_eq_ok_iff]
  rw [countPair?]
  cases pair? v with
  | error e => simp
  | ok p =>
      obtain ⟨a, b⟩ := p
      cases ha : count? a <;> cases hb : count? b <;> simp [ha, hb]

/-- A matcher is read from its own payload only. -/
theorem matcher?_eq_ok_iff {v : Value} {m : Matcher} : matcher? v = .ok m ↔ v = m.toValue := by
  cases m <;> cases v <;> simp [matcher?, Matcher.toValue]

/-- Options are read from an object, and none from a flag. -/
theorem options?_eq_ok_iff {v : Value} {o : Fields Value} :
    options? v = .ok o ↔ IsFlag v ∧ o = [] ∨ v = .object o := by
  cases v <;> simp [options?, IsFlag, eq_comm]

/-- A text option is absent if it is not given or undefined. -/
theorem optionText?_eq_ok_iff {name : String} {o : Fields Value} {t : Option String} :
    optionText? name o = .ok t
      ↔ (Fields.get? name o).getD .undefined = (t.map Value.string).getD .undefined := by
  rw [optionText?]
  cases Fields.get? name o with
  | none => cases t <;> simp
  | some v =>
      cases v <;> cases t <;> simp [text?, Except.map]

/-- A version is read from its own text, and none from no text. -/
theorem version?_eq_ok_iff {s : Option String} {u : Option Format.UuidVersion} :
    version? s = .ok u ↔ s = u.map Format.UuidVersion.text := by
  cases s with
  | none => cases u <;> simp [version?]
  | some s =>
      rw [version?]
      cases hs : Format.UuidVersion.ofText? s with
      | none =>
          refine iff_of_false nofun ?_
          intro h
          obtain ⟨v, rfl, hv⟩ := Option.map_eq_some_iff.mp h.symm
          rw [← hv, Format.UuidVersion.ofText?_text] at hs
          exact nomatch hs
      | some v =>
          -- the name of a version and the version determine each other
          have hv : v.text = s := Format.UuidVersion.text_of_ofText? hs
          cases u with
          | none => simp
          | some u =>
              constructor
              · intro h
                obtain rfl := Option.some.inj (Except.ok.inj h)
                rw [Option.map_some, hv]
              · intro h
                rw [Option.map_some, Option.some.injEq] at h
                rw [h, Format.UuidVersion.ofText?_text] at hs
                rw [Option.some.inj hs]

/-- A pattern is read from itself, or from a source without flags that
    compiles. -/
theorem pattern?_eq_ok_iff {v : Value} {p : Pattern} :
    pattern? v = .ok p
      ↔ v = .regexp p ∨ ∃ s, v = .string s ∧ Pattern.ofSource s "" = .ok p := by
  cases v with
  | string s =>
      rw [pattern?]
      cases hp : Pattern.ofSource s "" <;> simp [hp]
  | _ => simp [pattern?]

/-- Reading a bound once more changes nothing. -/
theorem bound_bound (v : Value) : bound (bound v) = bound v := by
  fun_cases bound v with
  | case4 v hinf hneg hnan =>
      show bound v = v
      rw [bound]
      · exact hinf
      · exact hneg
      · exact hnan
  | _ => rfl

end Payload

/-! ## Acceptance -/

namespace Payload

theorem exists_count?_iff {v : Value} : (∃ n, count? v = .ok n) ↔ IsCount v := by
  simp only [count?_eq_ok_iff]
  exact exists_comm

theorem exists_countPair?_iff {v : Value} : (∃ p, countPair? v = .ok p) ↔ IsPairOf IsCount v := by
  simp only [Prod.exists, countPair?_eq_ok_iff]
  constructor
  · rintro ⟨m, n, a, b, rfl, ha, hb⟩
    exact ⟨a, b, rfl, exists_count?_iff.mp ⟨m, ha⟩, exists_count?_iff.mp ⟨n, hb⟩⟩
  · rintro ⟨a, b, rfl, ha, hb⟩
    obtain ⟨m, hm⟩ := exists_count?_iff.mpr ha
    obtain ⟨n, hn⟩ := exists_count?_iff.mpr hb
    exact ⟨m, n, a, b, rfl, hm, hn⟩

theorem exists_pair?_iff {v : Value} : (∃ p, pair? v = .ok p) ↔ IsPairOf (fun _ => True) v := by
  simp only [Prod.exists, pair?_eq_ok_iff]
  constructor
  · rintro ⟨a, b, h⟩
    exact ⟨a, b, h, trivial, trivial⟩
  · rintro ⟨a, b, h, -, -⟩
    exact ⟨a, b, h⟩

theorem exists_matcher?_iff {v : Value} : (∃ m, matcher? v = .ok m) ↔ IsMatcher v := by
  simp only [matcher?_eq_ok_iff]
  constructor
  · rintro ⟨m, rfl⟩
    cases m with
    | exactly s => exact Or.inl ⟨s, rfl⟩
    | pattern p => exact Or.inr ⟨p, rfl⟩
  · rintro (⟨s, rfl⟩ | ⟨p, rfl⟩)
    · exact ⟨.exactly s, rfl⟩
    · exact ⟨.pattern p, rfl⟩

theorem exists_pattern?_iff {v : Value} : (∃ p, pattern? v = .ok p) ↔ IsPattern v := by
  simp only [pattern?_eq_ok_iff, exists_or]
  rw [IsPattern, exists_comm]

/-- Options are read if the reader of fields takes them, and no fields at
    all for a boolean. -/
theorem exists_options?_iff {α : Type} {P : Fields Value → Prop}
    {f : Fields Value → Except PayloadFault α} (hnil : P [])
    (hf : ∀ o, (∃ a, f o = .ok a) ↔ P o) {v : Value} :
    (∃ a, (options? v).bind f = .ok a) ↔ IsOptions P v := by
  simp only [bind_eq_ok_iff, options?_eq_ok_iff]
  constructor
  · rintro ⟨a, o, ⟨hv, -⟩ | rfl, ha⟩
    · exact Or.inl hv
    · exact Or.inr ⟨o, rfl, (hf o).mp ⟨a, ha⟩⟩
  · rintro (hv | ⟨o, rfl, ho⟩)
    · obtain ⟨a, ha⟩ := (hf []).mpr hnil
      exact ⟨a, [], Or.inl ⟨hv, rfl⟩, ha⟩
    · obtain ⟨a, ha⟩ := (hf o).mpr ho
      exact ⟨a, o, Or.inr rfl, ha⟩

theorem optionIs_nil (P : Value → Prop) (name : String) : OptionIs P name [] := nofun

/-- A matcher among options can be read when it is missing or one. -/
theorem exists_optionMatcher?_iff {name : String} {o : Fields Value} :
    (∃ m, optionMatcher? name o = .ok m) ↔ OptionIs IsMatcher name o := by
  rw [optionMatcher?, OptionIs]
  cases Fields.get? name o with
  | none => exact iff_of_true ⟨none, rfl⟩ nofun
  | some v =>
      rw [exists_map_eq_ok_iff, exists_matcher?_iff]
      constructor
      · rintro h w hw
        rw [← Option.some.inj hw]
        exact h
      · intro h
        exact h v rfl

/-- A value that is one of a family, or absent. -/
theorem exists_getD_iff {α : Type} {f : α → Value} {name : String} {o : Fields Value} :
    (∃ t : Option α, (Fields.get? name o).getD .undefined = (t.map f).getD .undefined)
      ↔ OptionIs (OrUndefined fun v => ∃ a, v = f a) name o := by
  rw [OptionIs]
  cases Fields.get? name o with
  | none => exact iff_of_true ⟨none, rfl⟩ nofun
  | some v =>
      constructor
      · rintro ⟨t, ht⟩ w hw
        obtain rfl := Option.some.inj hw
        cases t with
        | none => exact Or.inl ht
        | some a => exact Or.inr ⟨a, ht⟩
      · intro h
        rcases h v rfl with rfl | ⟨a, rfl⟩
        · exact ⟨none, rfl⟩
        · exact ⟨some a, rfl⟩

/-- A text among options can be read when it is missing, undefined or one. -/
theorem exists_optionText?_iff {name : String} {o : Fields Value} :
    (∃ t, optionText? name o = .ok t) ↔ OptionIs (OrUndefined IsText) name o := by
  simp only [optionText?_eq_ok_iff]
  exact exists_getD_iff

/-- A version among options can be read when it is missing, undefined or one.
    -/
theorem exists_optionVersion?_iff {name : String} {o : Fields Value} :
    (∃ u, (optionText? name o).bind version? = .ok u)
      ↔ OptionIs (OrUndefined IsVersion) name o := by
  simp only [bind_eq_ok_iff, optionText?_eq_ok_iff, version?_eq_ok_iff, exists_eq_right,
    Option.map_map]
  exact exists_getD_iff

end Payload

namespace Constraint

/-- **A constraint is read exactly from what its key admits**. -/
theorem exists_ofPayload?_iff (k : ConstraintKey) (v : Value) :
    (∃ c, ofPayload? k v = .ok c) ↔ k.Admits v := by
  cases k with
  | same | bound | differs => exact iff_of_true ⟨_, rfl⟩ trivial
  | isType | globalKey =>
      simp only [ofPayload?, exists_map_eq_ok_iff, text?_eq_ok_iff]
      exact Iff.rfl
  | global | wellKnown | format =>
      simp only [ofPayload?, exists_map_eq_ok_iff, bool?_eq_ok_iff]
      exact Iff.rfl
  | enum =>
      cases v with
      | array vs => exact iff_of_true ⟨.oneOf vs, rfl⟩ ⟨vs, rfl⟩
      | _ =>
          refine iff_of_false not_exists_error_eq_ok ?_
          rintro ⟨vs, hvs⟩
          exact nomatch hvs
  | range => exact exists_map_eq_ok_iff.trans exists_pair?_iff
  | length | lengthBelow | lengthAbove => exact exists_map_eq_ok_iff.trans exists_count?_iff
  | lengthRange => exact exists_map_eq_ok_iff.trans exists_countPair?_iff
  | pattern => exact exists_map_eq_ok_iff.trans exists_pattern?_iff
  | symbolDescription => exact exists_map_eq_ok_iff.trans exists_matcher?_iff
  | email =>
      refine exists_map_eq_ok_iff.trans (exists_options?_iff (optionIs_nil _ _) ?_)
      exact fun o => exists_optionMatcher?_iff
  | url =>
      refine exists_options?_iff ⟨optionIs_nil _ _, optionIs_nil _ _⟩ fun o => ?_
      rw [← exists_optionText?_iff, ← exists_optionText?_iff]
      simp only [bind_eq_ok_iff, map_eq_ok_iff]
      -- the hostname is read before the protocol, and either can fail alone
      constructor
      · rintro ⟨c, h, hh, p, hp, -⟩
        exact ⟨⟨h, hh⟩, ⟨p, hp⟩⟩
      · rintro ⟨⟨h, hh⟩, ⟨p, hp⟩⟩
        exact ⟨_, h, hh, p, hp, rfl⟩
  | uuid =>
      -- the version is looked up in the options object and then read as a version
      have hassoc : ((options? v).bind (optionText? "version")).bind version?
          = (options? v).bind fun o => (optionText? "version" o).bind version? := by
        cases options? v <;> rfl
      rw [ofPayload?, exists_map_eq_ok_iff, hassoc]
      exact exists_options?_iff (optionIs_nil _ _) fun o => exists_optionVersion?_iff

end Constraint

/-! ## The written form -/

/-- The counts of a test are counts that a payload can hold. -/
def LengthTest.Writable : LengthTest → Prop
  | exactly n | below n | above n => n < 2 ^ 32
  | within _ m n => m < 2 ^ 32 ∧ n < 2 ^ 32

/-- A constraint is in its written form if no bound is the name of a number
    and its counts can be held. -/
def Constraint.Writable : Constraint → Prop
  | .bound _ v => Payload.bound v = v
  | .range _ low high => Payload.bound low = low ∧ Payload.bound high = high
  | .length t => t.Writable
  | _ => True

namespace Constraint

/-- What has been read has the key that it was read for and is in its
    written form. -/
theorem writable_of_ofPayload? {k : ConstraintKey} {v : Value} {c : Constraint}
    (h : ofPayload? k v = .ok c) : c.key = k ∧ c.Writable := by
  cases k with
  | same | differs =>
      obtain rfl := Except.ok.inj h
      exact ⟨rfl, trivial⟩
  | bound r =>
      obtain rfl := Except.ok.inj h
      exact ⟨rfl, bound_bound v⟩
  | enum =>
      cases v with
      | array vs =>
          obtain rfl := Except.ok.inj h
          exact ⟨rfl, trivial⟩
      | _ => exact nomatch h
  | range closed =>
      obtain ⟨⟨a, b⟩, -, rfl⟩ := map_eq_ok_iff.mp h
      exact ⟨rfl, bound_bound a, bound_bound b⟩
  | length | lengthBelow | lengthAbove =>
      obtain ⟨n, hn, rfl⟩ := map_eq_ok_iff.mp h
      -- a count is taken below 2³² only, which is what writing it back needs
      obtain ⟨-, -, hlt, -⟩ := count?_eq_ok_iff.mp hn
      exact ⟨rfl, hlt⟩
  | lengthRange closed =>
      obtain ⟨⟨m, n⟩, hmn, rfl⟩ := map_eq_ok_iff.mp h
      obtain ⟨a, b, -, hm, hn⟩ := countPair?_eq_ok_iff.mp hmn
      obtain ⟨-, -, hm, -⟩ := count?_eq_ok_iff.mp hm
      obtain ⟨-, -, hn, -⟩ := count?_eq_ok_iff.mp hn
      exact ⟨rfl, hm, hn⟩
  | url =>
      obtain ⟨o, -, ho⟩ := bind_eq_ok_iff.mp h
      obtain ⟨hostname, -, hp⟩ := bind_eq_ok_iff.mp ho
      obtain ⟨protocol, -, rfl⟩ := map_eq_ok_iff.mp hp
      exact ⟨rfl, trivial⟩
  | _ =>
      obtain ⟨a, -, rfl⟩ := map_eq_ok_iff.mp h
      exact ⟨rfl, trivial⟩

/-- **Reading undoes writing** for every constraint in its written form. -/
theorem ofPayload?_payload {c : Constraint} (h : c.Writable) :
    ofPayload? c.key c.payload = .ok c := by
  cases c with
  | bound r v => exact congrArg (Except.ok ∘ Constraint.bound r) h
  | range closed low high =>
      obtain ⟨hlow, hhigh⟩ := h
      show Except.ok (range closed (Payload.bound low) (Payload.bound high)) = _
      rw [hlow, hhigh]
  | length t =>
      cases t with
      | exactly n | below n | above n =>
          refine map_eq_ok_iff.mpr ⟨n, ?_, rfl⟩
          exact count?_countValue h
      | within closed m n =>
          refine map_eq_ok_iff.mpr ⟨(m, n), ?_, rfl⟩
          rw [countPair?_eq_ok_iff]
          exact ⟨_, _, rfl, count?_countValue h.1, count?_countValue h.2⟩
  -- an option that is not set is left out of the object and read as absent
  | email domain =>
      cases domain with
      | none => rfl
      | some m => cases m <;> rfl
  | url hostname protocol => cases hostname <;> cases protocol <;> rfl
  | uuid version =>
      cases version with
      | none => rfl
      | some u => cases u <;> rfl
  | symbolDescription m => cases m <;> rfl
  | _ => rfl

end Constraint

end RuleTree
