import Mathlib.Data.List.Nodup
import RuleTree.Proofs.Distinct
import RuleTree.Proofs.Tree.Payload
/-! # What is written of a payload that has been read

    `ConstraintKey.Normalised` lists the payloads that may be written in the
    place of a payload.  Most are the payload itself; of an object of
    options some fields may be lost, and `lost` says which.

    A key looks up the options that it reads by name and leaves the others
    (`ofPayload?_options`).  So a payload comes back in a listed form
    exactly if all options that its key does not read may be lost
    (`normalised_payload_iff`). -/

namespace RuleTree

namespace Payload

/-! ## Written forms -/

/-- The names of the numbers that JSON cannot hold. -/
inductive Sentinel : String → Number → Prop where
  | infinity : Sentinel "Infinity" (.infinity false)
  | negativeInfinity : Sentinel "-Infinity" (.infinity true)
  | notANumber : Sentinel "NaN" .nan

/-- The same bound, or the number that it names. -/
def SameBound (v w : Value) : Prop :=
  w = v ∨ ∃ s x, v = .string s ∧ w = .number x ∧ Sentinel s x

/-- Equal numbers; they differ at most in the sign of zero. -/
def SameCount (v w : Value) : Prop :=
  ∃ x y, v = .number x ∧ w = .number y ∧ x.equals y = true

/-- Two arrays of two items that are related one by one. -/
def SamePair (R : Value → Value → Prop) (v w : Value) : Prop :=
  ∃ a b a' b', v = .array [a, b] ∧ w = .array [a', b'] ∧ R a a' ∧ R b b'

/-- The same pattern, or the one with this source. -/
def SamePattern (v w : Value) : Prop :=
  w = v ∨ ∃ s p, v = .string s ∧ w = .regexp p ∧ Pattern.ofSource s "" = .ok p

/-- The same options in some order, without some that may be lost; `true` is
    written for a boolean and where no option is left. -/
def SameOptions (lost : String × Value → Prop) (v w : Value) : Prop :=
  (IsFlag v ∧ w = .bool true)
  ∨ ∃ fields kept gone : Fields Value, v = .object fields ∧ fields.Perm (kept ++ gone)
      ∧ (∀ f ∈ gone, lost f) ∧ w = optionsValue kept

end Payload

open Payload

namespace ConstraintKey

/-- The names of the options that a key reads. -/
def optionNames : ConstraintKey → List String
  | email => ["domain"]
  | url => ["hostname", "protocol"]
  | uuid => ["version"]
  | _ => []

/-- Whether a constraint takes options. -/
def takesOptions : ConstraintKey → Bool
  | email | url | uuid => true
  | _ => false

/-- The payload that is written in the place of one that has been read. -/
def Normalised (lost : ConstraintKey → String × Value → Prop) (k : ConstraintKey) :
    Value → Value → Prop :=
  match k with
  | bound _ => SameBound
  | range _ => SamePair SameBound
  | length | lengthBelow | lengthAbove => SameCount
  | lengthRange _ => SamePair SameCount
  | pattern => SamePattern
  | email | url | uuid => SameOptions (lost k)
  | format _ => fun v w => IsFlag v ∧ w = .bool true
  | _ => fun v w => w = v

/-- Every option that the key does not read may be lost. -/
def IgnoresOnly (lost : ConstraintKey → String × Value → Prop) (k : ConstraintKey) (v : Value) :
    Prop :=
  k.takesOptions = true →
    ∀ fields, v = .object fields → ∀ f ∈ fields, f.1 ∉ k.optionNames → lost k f

/-- No option of a constraint is listed twice. -/
theorem nodup_optionNames (k : ConstraintKey) : k.optionNames.Nodup := by
  cases k with
  | email | url | uuid => decide
  | _ => exact List.nodup_nil

end ConstraintKey

/-! ## Options that are read -/

namespace Payload

/-- The value of an option; an undefined one is not given. -/
def givenOption (name : String) (o : Fields Value) : Option Value :=
  match Fields.get? name o with
  | some .undefined => none
  | given => given

/-- Whether a field gives one of the options with some names. -/
def gives (names : List String) (f : String × Value) : Bool :=
  names.contains f.1 && !f.2.isUndefined

/-- The options with some names that are given, in the order of the names. -/
def givenOptions (names : List String) (o : Fields Value) : Fields Value :=
  names.flatMap fun name => optionField name (givenOption name o)

section Given

variable {name : String} {names : List String} {o : Fields Value} {v : Value}

/-- An option is given when the object has it and it is not undefined. -/
theorem givenOption_eq_some_iff :
    givenOption name o = some v ↔ Fields.get? name o = some v ∧ v.isUndefined = false := by
  rw [givenOption]
  cases Fields.get? name o with
  | none => simp
  | some w =>
      cases w with
      | undefined =>
          refine iff_of_false nofun ?_
          rintro ⟨hv, hdef⟩
          rw [← Option.some.inj hv] at hdef
          exact nomatch hdef
      | _ =>
          refine (and_iff_left_of_imp fun hv => ?_).symm
          rw [← Option.some.inj hv]
          rfl

/-- An optional field is there when its value is. -/
theorem mem_optionField {v? : Option Value} {f : String × Value} :
    f ∈ optionField name v? ↔ f.1 = name ∧ v? = some f.2 := by
  cases v? with
  | none => simp [optionField]
  | some v =>
      rw [optionField, List.mem_singleton, Prod.ext_iff, Option.some.injEq]
      exact and_congr_right fun _ => eq_comm

/-- The given options are those listed whose value is not undefined. -/
theorem mem_givenOptions {f : String × Value} :
    f ∈ givenOptions names o
      ↔ f.1 ∈ names ∧ Fields.get? f.1 o = some f.2 ∧ f.2.isUndefined = false := by
  simp only [givenOptions, List.mem_flatMap, mem_optionField, givenOption_eq_some_iff]
  constructor
  · rintro ⟨name, hname, rfl, hget⟩
    exact ⟨hname, hget⟩
  · rintro ⟨hname, hget⟩
    exact ⟨f.1, hname, rfl, hget⟩

/-- Given options come in the order in which they are listed. -/
theorem keys_givenOptions_sublist (names : List String) (o : Fields Value) :
    (Fields.keys (givenOptions names o)).Sublist names := by
  induction names with
  | nil => exact .slnil
  | cons name names ih =>
      rw [givenOptions, List.flatMap_cons, Fields.keys, List.map_append]
      cases givenOption name o with
      | none => exact ih.cons name
      | some v => exact ih.cons_cons name

/-- What is given is what an object holds under these names. -/
theorem givenOptions_perm (hnames : names.Nodup) (ho : (Fields.keys o).Nodup) :
    (givenOptions names o).Perm (o.filter (gives names)) := by
  have hgiven : (givenOptions names o).Nodup :=
    (hnames.sublist (keys_givenOptions_sublist names o)).of_map
  have hfields : o.Nodup := ho.of_map
  rw [List.perm_ext_iff_of_nodup hgiven (hfields.filter _)]
  intro f
  have hmem : Fields.get? f.1 o = some f.2 ↔ f ∈ o :=
    ⟨Fields.mem_of_get?, Fields.get?_eq_of_mem ho⟩
  rw [mem_givenOptions, hmem, List.mem_filter, gives, Bool.and_eq_true, List.contains_iff_mem,
    Bool.not_eq_true']
  tauto

/-- Options are written so that they can be told apart: none as a flag,
    others as an object. -/
theorem eq_of_optionsValue_eq {as bs : Fields Value} (h : optionsValue as = optionsValue bs) :
    as = bs := by
  cases as with
  | nil =>
      cases bs with
      | nil => rfl
      | cons b bs => exact nomatch h
  | cons a as =>
      cases bs with
      | nil => exact nomatch h
      | cons b bs => exact Value.object.inj h

/-- Options come back in a written form exactly if those that are not read
    may be lost. -/
theorem sameOptions_givenOptions_iff {lost : String × Value → Prop}
    (hundefined : ∀ name, lost (name, .undefined)) (hnames : names.Nodup) (hv : v.WellKeyed)
    (h : options? v = .ok o) :
    SameOptions lost v (optionsValue (givenOptions names o))
      ↔ ∀ fields, v = .object fields → ∀ f ∈ fields, f.1 ∉ names → lost f := by
  rcases options?_eq_ok_iff.mp h with ⟨hflag, rfl⟩ | rfl
  · refine iff_of_true (Or.inl ⟨hflag, ?_⟩) ?_
    · have hnone : givenOptions names [] = [] := List.flatMap_eq_nil_iff.mpr fun _ _ => rfl
      rw [hnone]
      rfl
    · rintro fields rfl
      obtain ⟨b, hb⟩ := hflag
      exact nomatch hb
  · constructor
    · rintro (⟨⟨b, hb⟩, -⟩ | ⟨fields, kept, gone, hfields, hperm, hgone, hkept⟩)
      · exact nomatch hb
      · obtain rfl := Value.object.inj hfields
        obtain rfl := eq_of_optionsValue_eq hkept
        intro fields' hfields' f hf hname
        obtain rfl := Value.object.inj hfields'
        -- what is kept is read, so the field is gone
        rcases List.mem_append.mp (hperm.mem_iff.mp hf) with hf | hf
        · exact absurd (mem_givenOptions.mp hf).1 hname
        · exact hgone f hf
    · intro hlost
      rw [wellKeyed_object_iff] at hv
      refine Or.inr ⟨o, _, o.filter fun f => !gives names f, rfl, ?_, ?_, rfl⟩
      · have hsplit := (List.filter_append_perm (gives names) o).symm
        exact hsplit.trans ((givenOptions_perm hnames hv.1).symm.append_right _)
      · intro f hf
        obtain ⟨hmem, hgives⟩ := List.mem_filter.mp hf
        by_cases hname : f.1 ∈ names
        · have hf2 : f.2 = .undefined := by
            cases hv2 : f.2 with
            | undefined => rfl
            | _ => simp [gives, hname, hv2, Value.isUndefined] at hgives
          have hfield : f = (f.1, .undefined) := by rw [← hf2]
          rw [hfield]
          exact hundefined f.1
        · exact hlost o rfl f hmem hname

end Given

/-! ## Readers of options -/

/-- A text option that was read is the one given. -/
theorem givenOption_of_optionText? {name : String} {o : Fields Value} {t : Option String}
    (h : optionText? name o = .ok t) : givenOption name o = t.map .string := by
  rw [optionText?_eq_ok_iff] at h
  rw [givenOption]
  cases hget : Fields.get? name o with
  | none =>
      rw [hget] at h
      cases t with
      | none => rfl
      | some s => exact nomatch h
  | some v =>
      rw [hget, Option.getD_some] at h
      rw [h]
      cases t <;> rfl

/-- A matcher that was read is the one given. -/
theorem givenOption_of_optionMatcher? {name : String} {o : Fields Value} {m : Option Matcher}
    (h : optionMatcher? name o = .ok m) : givenOption name o = m.map (·.toValue) := by
  rw [optionMatcher?] at h
  rw [givenOption]
  cases hget : Fields.get? name o with
  | none =>
      rw [hget] at h
      rw [← Except.ok.inj h]
      rfl
  | some v =>
      rw [hget] at h
      obtain ⟨m', hm', rfl⟩ := map_eq_ok_iff.mp h
      rw [matcher?_eq_ok_iff] at hm'
      rw [hm']
      cases m' <;> rfl

end Payload

namespace Constraint

/-- A key that takes options writes those that it has been given under the
    names that it reads. -/
theorem ofPayload?_options {k : ConstraintKey} (hk : k.takesOptions = true) {v : Value}
    {c : Constraint} (h : ofPayload? k v = .ok c) :
    ∃ o, options? v = .ok o ∧ c.payload = optionsValue (givenOptions k.optionNames o) := by
  cases k with
  | email =>
      obtain ⟨domain, hdomain, rfl⟩ := map_eq_ok_iff.mp h
      obtain ⟨o, ho, hdomain⟩ := bind_eq_ok_iff.mp hdomain
      refine ⟨o, ho, ?_⟩
      simp [givenOptions, ConstraintKey.optionNames, givenOption_of_optionMatcher? hdomain, payload]
  | url =>
      obtain ⟨o, ho, h⟩ := bind_eq_ok_iff.mp h
      obtain ⟨hostname, hhost, h⟩ := bind_eq_ok_iff.mp h
      obtain ⟨protocol, hprot, rfl⟩ := map_eq_ok_iff.mp h
      refine ⟨o, ho, ?_⟩
      simp [givenOptions, ConstraintKey.optionNames, givenOption_of_optionText? hhost,
        givenOption_of_optionText? hprot, payload]
  | uuid =>
      obtain ⟨version, hversion, rfl⟩ := map_eq_ok_iff.mp h
      obtain ⟨text, htext, hversion⟩ := bind_eq_ok_iff.mp hversion
      obtain ⟨o, ho, htext⟩ := bind_eq_ok_iff.mp htext
      -- the version is written by its name, the text that was given
      obtain rfl := version?_eq_ok_iff.mp hversion
      refine ⟨o, ho, ?_⟩
      have hgiven := givenOption_of_optionText? htext
      rw [Option.map_map] at hgiven
      simp [givenOptions, ConstraintKey.optionNames, hgiven, payload, Function.comp_def]
  | _ => exact nomatch hk

end Constraint

/-- Reading a bound keeps it, up to its written form. -/
theorem Payload.sameBound_bound (v : Value) : SameBound v (bound v) := by
  fun_cases bound v with
  | case1 => exact Or.inr ⟨_, _, rfl, rfl, .infinity⟩
  | case2 => exact Or.inr ⟨_, _, rfl, rfl, .negativeInfinity⟩
  | case3 => exact Or.inr ⟨_, _, rfl, rfl, .notANumber⟩
  | case4 => exact Or.inl rfl

/-- A count that was read is written as the same number. -/
theorem Payload.sameCount_countValue {v : Value} {n : Nat} (h : count? v = .ok n) :
    SameCount v (countValue n) := by
  obtain ⟨x, rfl, -, heq⟩ := count?_eq_ok_iff.mp h
  exact ⟨x, _, rfl, rfl, heq⟩

/-- **A payload comes back in a listed form** exactly if every option that
    its key does not read may be lost. -/
theorem Constraint.normalised_payload_iff {lost : ConstraintKey → String × Value → Prop}
    (hundefined : ∀ k name, lost k (name, .undefined)) {k : ConstraintKey} {v : Value}
    {c : Constraint} (hv : v.WellKeyed) (h : ofPayload? k v = .ok c) :
    k.Normalised lost v c.payload ↔ k.IgnoresOnly lost v := by
  -- only the keys with an options object can lose a field
  by_cases hk : k.takesOptions = true
  · obtain ⟨o, ho, hpayload⟩ := ofPayload?_options hk h
    have hsame := sameOptions_givenOptions_iff (hundefined k) k.nodup_optionNames hv ho
    have hform : k.Normalised lost = SameOptions (lost k) := by
      cases k with
      | email | url | uuid => rfl
      | _ => exact nomatch hk
    rw [hpayload, hform, hsame]
    exact (imp_iff_right hk).symm
  · refine iff_of_true ?_ fun hk' => absurd hk' hk
    cases k with
    | email | url | uuid => exact absurd rfl hk
    | same | differs =>
        obtain rfl := Except.ok.inj h
        rfl
    | enum =>
        cases v with
        | array vs =>
            obtain rfl := Except.ok.inj h
            rfl
        | _ => exact nomatch h
    | bound r =>
        obtain rfl := Except.ok.inj h
        exact sameBound_bound v
    | range closed =>
        obtain ⟨⟨a, b⟩, hpair, rfl⟩ := map_eq_ok_iff.mp h
        obtain rfl := pair?_eq_ok_iff.mp hpair
        exact ⟨a, b, _, _, rfl, rfl, sameBound_bound a, sameBound_bound b⟩
    | length | lengthBelow | lengthAbove =>
        obtain ⟨n, hn, rfl⟩ := map_eq_ok_iff.mp h
        exact sameCount_countValue hn
    | lengthRange closed =>
        obtain ⟨⟨m, n⟩, hmn, rfl⟩ := map_eq_ok_iff.mp h
        obtain ⟨a, b, rfl, hm, hn⟩ := countPair?_eq_ok_iff.mp hmn
        exact ⟨a, b, _, _, rfl, rfl, sameCount_countValue hm, sameCount_countValue hn⟩
    | pattern =>
        obtain ⟨p, hp, rfl⟩ := map_eq_ok_iff.mp h
        -- a pattern given as a text comes back as the pattern compiled from it
        rcases pattern?_eq_ok_iff.mp hp with rfl | ⟨s, rfl, hs⟩
        · exact Or.inl rfl
        · exact Or.inr ⟨s, p, rfl, rfl, hs⟩
    | format f =>
        obtain ⟨b, hb, rfl⟩ := map_eq_ok_iff.mp h
        exact ⟨⟨b, bool?_eq_ok_iff.mp hb⟩, rfl⟩
    | isType | globalKey =>
        obtain ⟨s, hs, rfl⟩ := map_eq_ok_iff.mp h
        exact (text?_eq_ok_iff.mp hs).symm
    | global | wellKnown =>
        obtain ⟨b, hb, rfl⟩ := map_eq_ok_iff.mp h
        exact (bool?_eq_ok_iff.mp hb).symm
    | symbolDescription =>
        obtain ⟨m, hm, rfl⟩ := map_eq_ok_iff.mp h
        exact (matcher?_eq_ok_iff.mp hm).symm

end RuleTree
