import Mathlib.Data.Set.List
import RuleTree.Proofs.Pattern.Language
import RuleTree.Format.Identifier
/-! # Encodings in base64

    Three bytes are the bits of four sextets, each written as a character of
    an alphabet.  One or two bytes at the end are filled up with zero bits to
    whole sextets, and with padding to four characters.

    * `encode`: the encoding of bytes;
    * `mem_language_base64Regex_iff`: the expression takes characters of the
      alphabet and at most two of padding, by fours;
    * `exists_encode_agrees`: such a text is an encoding, but for the bits
      that the encoding fills with zeros;
    * `validators_take_encodings`: both validators against the encoding. -/

namespace RuleTree.Format.Base64

/-! ## The encoding -/

/-- A character for each sextet, none of them the padding. -/
structure Alphabet where
  symbol : Fin 64 → Char
  symbol_ne : ∀ x, symbol x ≠ '='

/-- The characters of a text, one for each sextet. -/
def Alphabet.ofText (text : String) (hlength : text.toList.length = 64)
    (hpadding : '=' ∉ text.toList) : Alphabet where
  symbol x := text.toList.get (x.cast hlength.symm)
  symbol_ne _ h := hpadding (h ▸ List.get_mem text.toList _)

/-- The standard alphabet. -/
def standard : Alphabet :=
  .ofText "ABCDEFGHIJKLMNOPQRSTUVWXYZabcdefghijklmnopqrstuvwxyz0123456789+/"
    rfl (by decide +kernel)

/-- The alphabet that is safe in addresses and in names of files. -/
def urlSafe : Alphabet :=
  .ofText "ABCDEFGHIJKLMNOPQRSTUVWXYZabcdefghijklmnopqrstuvwxyz0123456789-_"
    rfl (by decide +kernel)

/-- The lowest `count` sextets of a number, the highest first. -/
def sextets : (count : Nat) → Nat → List (Fin 64)
  | 0, _ => []
  | count + 1, n => sextets count (n / 64) ++ [Fin.ofNat 64 n]

/-- Sextets before padding. -/
def padded (alphabet : Alphabet) (xs : List (Fin 64)) (k : Nat) : List Char :=
  xs.map alphabet.symbol ++ List.replicate k '='

/-- The encoding of bytes, by threes. -/
def encode (alphabet : Alphabet) : List UInt8 → List Char
  | [] => []
  | [a] => padded alphabet (sextets 2 (a.toNat * 2 ^ 4)) 2
  | [a, b] => padded alphabet (sextets 3 ((a.toNat * 2 ^ 8 + b.toNat) * 2 ^ 2)) 1
  | a :: b :: c :: rest =>
    padded alphabet (sextets 4 (a.toNat * 2 ^ 16 + b.toNat * 2 ^ 8 + c.toNat)) 0
      ++ encode alphabet rest

/-- Texts of the same length and padding that differ at most in the bits of
    the last sextet that the padding leaves unused, two for each character
    of it. -/
def AgreesUpToSpareBits (alphabet : Alphabet) (s e : List Char) : Prop :=
  s = e ∨ ∃ (body : List (Fin 64)) (m n : Fin 64) (k : Nat),
    m.val / 2 ^ (2 * k) = n.val / 2 ^ (2 * k)
    ∧ s = padded alphabet (body ++ [m]) k ∧ e = padded alphabet (body ++ [n]) k

/-! ## Sextets -/

section Sextets

variable {alphabet : Alphabet} {xs ys : List (Fin 64)} {j k : Nat}

/-- A number has as many sextets as were asked for. -/
theorem length_sextets (count n : Nat) : (sextets count n).length = count := by
  induction count generalizing n with
  | zero => rfl
  | succ count ih => rw [sextets, List.length_append, ih, List.length_singleton]

/-- Sextets are those of a number. -/
theorem exists_sextets (xs : List (Fin 64)) :
    ∃ n < 64 ^ xs.length, sextets xs.length n = xs := by
  induction xs using List.reverseRecOn with
  | nil => exact ⟨0, Nat.one_pos, rfl⟩
  | append_singleton xs x ih =>
      obtain ⟨n, hn, hxs⟩ := ih
      have hx := x.isLt
      rw [List.length_append, List.length_singleton, Nat.pow_succ]
      refine ⟨n * 64 + x.val, by omega, ?_⟩
      have hdiv : (n * 64 + x.val) / 64 = n := by omega
      have hmod : Fin.ofNat 64 (n * 64 + x.val) = x := Fin.ext (by rw [Fin.val_ofNat]; omega)
      rw [sextets, hdiv, hmod, hxs]

/-- Characters in front do not touch the padding. -/
theorem padded_append (xs ys : List (Fin 64)) (k : Nat) :
    padded alphabet (xs ++ ys) k = padded alphabet xs 0 ++ padded alphabet ys k := by
  rw [padded, padded, padded, List.map_append, List.replicate_zero, List.append_nil,
    List.append_assoc]

/-- The padding can be told from the sextets. -/
theorem count_padded : (padded alphabet xs k).count '=' = k := by
  have hnone : '=' ∉ xs.map alphabet.symbol := by
    intro h
    obtain ⟨x, -, hx⟩ := List.mem_map.mp h
    exact alphabet.symbol_ne x hx
  rw [padded, List.count_append, List.count_eq_zero.mpr hnone, List.count_replicate_self,
    Nat.zero_add]

/-- A text tells how many characters stand for sextets and how many pad. -/
theorem length_eq_of_padded_eq (h : padded alphabet xs j = padded alphabet ys k) :
    xs.length = ys.length ∧ j = k := by
  have hpadding := congrArg (List.count '=') h
  rw [count_padded, count_padded] at hpadding
  have hlength := congrArg List.length h
  simp only [padded, List.length_append, List.length_map, List.length_replicate] at hlength
  exact ⟨by omega, hpadding⟩

end Sextets

/-! ## The expression -/

section Expression

variable {set : CharSet} {u w : List Char} {k n : Nat}

/-- A repetition of groups of `n` characters is a text over the set whose
    length `n` divides. -/
theorem mem_kstar_groups_iff :
    w ∈ KStar.kstar (Regex.charLanguage set ^ n)
      ↔ n ∣ w.length ∧ ∀ c ∈ w, set.contains c.toNat = true := by
  rw [Language.kstar_eq_iSup_pow, Language.mem_iSup]
  simp only [← pow_mul, Regex.mem_charLanguage_pow_iff]
  rw [exists_and_right]
  rfl

/-- The last group, where characters of padding stand for some of the
    alphabet. -/
def lastGroup (set : CharSet) (k : Nat) : Language Char :=
  Regex.charLanguage set ^ (4 - k) * {List.replicate k '='}

/-- Full groups before one that is padded: a text over the set, as long as
    full groups but for the padding. -/
theorem mem_kstar_mul_lastGroup_iff (hk : 0 < k) (hk' : k < 4) :
    w ∈ KStar.kstar (Regex.charLanguage set ^ 4) * lastGroup set k
      ↔ ∃ u, 4 ∣ u.length + k ∧ (∀ c ∈ u, set.contains c.toNat = true)
        ∧ w = u ++ List.replicate k '=' := by
  constructor
  · rintro ⟨u, hu, _, ⟨v, hv, _, rfl, rfl⟩, rfl⟩
    obtain ⟨hlength, hu⟩ := mem_kstar_groups_iff.mp hu
    obtain ⟨hlength', hv⟩ := Regex.mem_charLanguage_pow_iff.mp hv
    refine ⟨u ++ v, ?_, List.forall_mem_append.mpr ⟨hu, hv⟩, (List.append_assoc u v _).symm⟩
    rw [List.length_append]
    omega
  · rintro ⟨u, hlength, hall, rfl⟩
    -- the characters of the last group are taken from the end
    obtain ⟨p, q, rfl, hq⟩ : ∃ p q, u = p ++ q ∧ q.length = 4 - k := by
      refine ⟨u.take (u.length - (4 - k)), u.drop (u.length - (4 - k)),
        (List.take_append_drop _ u).symm, ?_⟩
      rw [List.length_drop]
      omega
    rw [List.length_append] at hlength
    rw [List.forall_mem_append] at hall
    exact ⟨p, mem_kstar_groups_iff.mpr ⟨by omega, hall.1⟩, _,
      ⟨q, Regex.mem_charLanguage_pow_iff.mpr ⟨hq, hall.2⟩, _, rfl, rfl⟩,
      (List.append_assoc p q _).symm⟩

/-- Full groups, and possibly one with one or two characters of padding. -/
theorem language_base64Regex :
    (base64Regex set).language
      = KStar.kstar (Regex.charLanguage set ^ 4) * (1 + (lastGroup set 2 + lastGroup set 1)) := by
  have hsextets (n : Nat) :
      (Regex.exactly (.one set) n).language = Regex.charLanguage set ^ n :=
    Regex.language_exactly _ n
  have hmany : (Regex.many (Regex.exactly (.one set) 4)).language
      = KStar.kstar (Regex.charLanguage set ^ 4) := by
    rw [Regex.many, Regex.language, pow_zero, one_mul, hsextets]
  rw [base64Regex, Regex.language_seq, hmany, Regex.language_optional, Regex.language_alt,
    Regex.language_seq, Regex.language_seq, Regex.language_literal, Regex.language_literal,
    hsextets, hsextets]
  rfl

/-- Characters of the alphabet and at most two of padding, by fours. -/
theorem mem_language_base64Regex_iff :
    w ∈ (base64Regex set).language
      ↔ ∃ u k, k ≤ 2 ∧ 4 ∣ u.length + k ∧ (∀ c ∈ u, set.contains c.toNat = true)
        ∧ w = u ++ List.replicate k '=' := by
  rw [language_base64Regex, mul_add, mul_add, mul_one, Language.mem_add, Language.mem_add,
    mem_kstar_groups_iff, mem_kstar_mul_lastGroup_iff (by decide) (by decide),
    mem_kstar_mul_lastGroup_iff (by decide) (by decide)]
  constructor
  · rintro (⟨hlength, hall⟩ | ⟨u, h⟩ | ⟨u, h⟩)
    · exact ⟨w, 0, by decide, hlength, hall, (List.append_nil w).symm⟩
    · exact ⟨u, 2, by decide, h⟩
    · exact ⟨u, 1, by decide, h⟩
  · rintro ⟨u, k, hk, hlength, hall, rfl⟩
    -- no padding, one sign or two
    obtain rfl | rfl | rfl : k = 0 ∨ k = 1 ∨ k = 2 := by omega
    · rw [List.replicate_zero, List.append_nil]
      exact Or.inl ⟨hlength, hall⟩
    · exact Or.inr (Or.inr ⟨u, hlength, hall, rfl⟩)
    · exact Or.inr (Or.inl ⟨u, hlength, hall, rfl⟩)

end Expression

/-! ## Texts of the expression and encodings -/

/-- A set of the characters of an alphabet. -/
def Spells (set : CharSet) (alphabet : Alphabet) : Prop :=
  ∀ c : Char, set.contains c.toNat = true ↔ ∃ x, alphabet.symbol x = c

section Agreement

variable {alphabet : Alphabet} {set : CharSet} {s e : List Char} {k n : Nat}

/-- The texts of the expression are the sextets, spelt in the alphabet, whose
    number the padding brings to a multiple of four. -/
theorem mem_language_iff_padded (hset : Spells set alphabet) :
    s ∈ (base64Regex set).language
      ↔ ∃ xs k, k ≤ 2 ∧ 4 ∣ xs.length + k ∧ s = padded alphabet xs k := by
  rw [mem_language_base64Regex_iff]
  constructor
  · rintro ⟨u, k, hk, hlength, hall, rfl⟩
    obtain ⟨xs, rfl⟩ : u ∈ Set.range (List.map alphabet.symbol) := by
      rw [Set.range_list_map]
      exact fun c hc => (hset c).mp (hall c hc)
    rw [List.length_map] at hlength
    exact ⟨xs, k, hk, hlength, rfl⟩
  · rintro ⟨xs, k, hk, hlength, rfl⟩
    refine ⟨xs.map alphabet.symbol, k, hk, ?_, List.forall_mem_map.mpr ?_, rfl⟩
    · rw [List.length_map]
      exact hlength
    · exact fun x _ => (hset _).mpr ⟨x, rfl⟩

/-- An encoding has the shape that the expression asks for. -/
theorem exists_padded_eq_encode (alphabet : Alphabet) (bytes : List UInt8) :
    ∃ xs k, k ≤ 2 ∧ 4 ∣ xs.length + k ∧ encode alphabet bytes = padded alphabet xs k := by
  induction bytes using encode.induct with
  | case1 => exact ⟨[], 0, by decide, by decide, rfl⟩
  | case2 a =>
      have hlength := length_sextets 2 (a.toNat * 2 ^ 4)
      exact ⟨_, 2, by decide, by omega, rfl⟩
  | case3 a b =>
      have hlength := length_sextets 3 ((a.toNat * 2 ^ 8 + b.toNat) * 2 ^ 2)
      exact ⟨_, 1, by decide, by omega, rfl⟩
  | case4 a b c rest ih =>
      obtain ⟨xs, k, hk, hlength, hrest⟩ := ih
      refine ⟨sextets 4 (a.toNat * 2 ^ 16 + b.toNat * 2 ^ 8 + c.toNat) ++ xs, k, hk, ?_, ?_⟩
      · rw [List.length_append, length_sextets]
        omega
      · rw [encode, hrest, padded_append]

/-- Spare bits sit in the last character, so characters in front do not
    matter. -/
theorem AgreesUpToSpareBits.append (xs : List (Fin 64)) (h : AgreesUpToSpareBits alphabet s e) :
    AgreesUpToSpareBits alphabet (padded alphabet xs 0 ++ s) (padded alphabet xs 0 ++ e) := by
  rcases h with rfl | ⟨body, m, n, k, hspare, rfl, rfl⟩
  · exact Or.inl rfl
  · refine Or.inr ⟨xs ++ body, m, n, k, hspare, ?_, ?_⟩
    · rw [List.append_assoc, ← padded_append]
    · rw [List.append_assoc, ← padded_append]

/-- To clear the bits that padding leaves unused is to clear them in the last
    sextet. -/
theorem agrees_cleared (count n : Nat) (hk : k ≤ 2) :
    AgreesUpToSpareBits alphabet (padded alphabet (sextets (count + 1) n) k)
      (padded alphabet (sextets (count + 1) (n / 2 ^ (2 * k) * 2 ^ (2 * k))) k) := by
  have hbits : n / 2 ^ (2 * k) * 2 ^ (2 * k) / 64 = n / 64
      ∧ n % 64 / 2 ^ (2 * k) = n / 2 ^ (2 * k) * 2 ^ (2 * k) % 64 / 2 ^ (2 * k) := by
    obtain rfl | rfl | rfl : k = 0 ∨ k = 1 ∨ k = 2 := by omega
    · omega
    · omega
    · omega
  refine Or.inr ⟨sextets count (n / 64), .ofNat 64 n,
    .ofNat 64 (n / 2 ^ (2 * k) * 2 ^ (2 * k)), k, hbits.2, rfl, ?_⟩
  rw [sextets, hbits.1]

/-- Four sextets are three bytes. -/
theorem exists_threeBytes (hn : n < 64 ^ 4) :
    ∃ a b c : UInt8, a.toNat * 2 ^ 16 + b.toNat * 2 ^ 8 + c.toNat = n := by
  refine ⟨.ofNat (n / 2 ^ 16), .ofNat (n / 2 ^ 8), .ofNat n, ?_⟩
  simp only [UInt8.toNat_ofNat']
  omega

/-- Three sextets are two bytes with two bits to spare. -/
theorem exists_twoBytes (hn : n < 64 ^ 3) :
    ∃ a b : UInt8, a.toNat * 2 ^ 8 + b.toNat = n / 2 ^ 2 := by
  refine ⟨.ofNat (n / 2 ^ 10), .ofNat (n / 2 ^ 2), ?_⟩
  simp only [UInt8.toNat_ofNat']
  omega

/-- Two sextets are one byte with four bits to spare. -/
theorem exists_byte (hn : n < 64 ^ 2) : ∃ a : UInt8, a.toNat = n / 2 ^ 4 := by
  refine ⟨.ofNat (n / 2 ^ 4), ?_⟩
  simp only [UInt8.toNat_ofNat']
  omega

/-- A text of the shape that the expression asks for is an encoding up to
    the bits that the padding leaves unused. -/
theorem exists_encode_agrees (xs : List (Fin 64)) (hk : k ≤ 2) (hlength : 4 ∣ xs.length + k) :
    ∃ bytes, AgreesUpToSpareBits alphabet (padded alphabet xs k) (encode alphabet bytes) := by
  -- by groups of four characters, the last of which may have padding
  obtain ⟨groups, hgroups⟩ := hlength
  induction groups generalizing xs with
  | zero =>
      obtain ⟨hxs, rfl⟩ : xs.length = 0 ∧ k = 0 := by omega
      rw [List.length_eq_zero_iff.mp hxs]
      exact ⟨[], Or.inl rfl⟩
  | succ groups ih =>
      by_cases hfour : 4 ≤ xs.length
      · obtain ⟨n, hn, htake⟩ := exists_sextets (xs.take 4)
        rw [List.length_take_of_le hfour] at hn htake
        obtain ⟨a, b, c, rfl⟩ := exists_threeBytes hn
        have hdrop : (xs.drop 4).length + k = 4 * groups := by
          rw [List.length_drop]
          omega
        obtain ⟨rest, hrest⟩ := ih (xs.drop 4) hdrop
        refine ⟨a :: b :: c :: rest, ?_⟩
        rw [← List.take_append_drop 4 xs, padded_append, ← htake]
        exact hrest.append _
      · obtain ⟨n, hn, hxs⟩ := exists_sextets xs
        obtain ⟨rfl, hlength⟩ | ⟨rfl, hlength⟩ :
            k = 1 ∧ xs.length = 3 ∨ k = 2 ∧ xs.length = 2 := by omega
        · rw [hlength] at hn hxs
          obtain ⟨a, b, hbytes⟩ := exists_twoBytes hn
          refine ⟨[a, b], ?_⟩
          rw [encode, hbytes, ← hxs]
          exact agrees_cleared 2 n hk
        · rw [hlength] at hn hxs
          obtain ⟨a, hbyte⟩ := exists_byte hn
          refine ⟨[a], ?_⟩
          rw [encode, hbyte, ← hxs]
          exact agrees_cleared 1 n hk

/-- The texts of the expression are the encodings of bytes, up to the bits
    that encode nothing. -/
theorem mem_language_iff_encode (hset : Spells set alphabet) :
    s ∈ (base64Regex set).language
      ↔ ∃ bytes, AgreesUpToSpareBits alphabet s (encode alphabet bytes) := by
  rw [mem_language_iff_padded hset]
  constructor
  · rintro ⟨xs, k, hk, hlength, rfl⟩
    exact exists_encode_agrees xs hk hlength
  · rintro ⟨bytes, h⟩
    obtain ⟨xs, k, hk, hlength, hencode⟩ := exists_padded_eq_encode alphabet bytes
    rcases h with rfl | ⟨body, m, n, j, -, rfl, hbody⟩
    · exact ⟨xs, k, hk, hlength, hencode⟩
    · -- another last sextet changes neither the length nor the padding
      obtain ⟨hsame, rfl⟩ := length_eq_of_padded_eq (hencode.symm.trans hbody)
      rw [hsame, List.length_append, List.length_singleton] at hlength
      refine ⟨body ++ [m], k, hk, ?_, rfl⟩
      rw [List.length_append, List.length_singleton]
      exact hlength

end Agreement

/-! ## The validators -/

/-- A set and an alphabet in ASCII are compared there. -/
theorem spells_of_ascii {set : CharSet} {text : String} {hlength : text.toList.length = 64}
    {hpadding : '=' ∉ text.toList} (hset : ∀ n, set.contains n = true → n < 0x80)
    (htext : ∀ n ∈ text.toList.map Char.toNat, n < 0x80)
    (h : ∀ n < 0x80, set.contains n = true ↔ n ∈ text.toList.map Char.toNat) :
    Spells set (.ofText text hlength hpadding) := by
  have hmem (c : Char) : c.toNat ∈ text.toList.map Char.toNat
      ↔ ∃ x, (Alphabet.ofText text hlength hpadding).symbol x = c := by
    rw [List.mem_map_of_injective fun _ _ => Char.toNat_inj.mp, List.mem_iff_get]
    constructor
    · rintro ⟨i, hi⟩
      exact ⟨i.cast hlength, hi⟩
    · rintro ⟨x, hx⟩
      exact ⟨x.cast hlength.symm, hx⟩
  intro c
  rw [← hmem]
  by_cases hc : c.toNat < 0x80
  · exact h _ hc
  · exact iff_of_false (fun hmem => hc (hset _ hmem)) fun hmem => hc (htext _ hmem)

/-- The alphabets are within ASCII, so that their sets need be compared on
    128 code points only. -/
theorem lt_of_contains {extra : String} (hextra : ∀ n ∈ extra.toList.map Char.toNat, n < 0x80)
    (n : Nat) (h : (CharSet.union letterDigitSet (.ofString extra)).contains n = true) :
    n < 0x80 := by
  simp [letterDigitSet, CharSet.unions, CharSet.none, CharSet.range, CharSet.ofString,
    CharSet.contains, Unicode.Run.contains] at h
  rcases h with h | ⟨c, hc, h, -⟩
  · omega
  · have hlt := hextra c.toNat (List.mem_map_of_mem hc)
    omega

/-- The set of the standard alphabet spells its 64 characters. -/
theorem spells_standard : Spells base64Alphabet standard :=
  spells_of_ascii (lt_of_contains (by decide)) (by decide +kernel) (by decide +kernel)

/-- The set of the alphabet for addresses spells its 64 characters. -/
theorem spells_urlSafe : Spells base64UrlAlphabet urlSafe :=
  spells_of_ascii (lt_of_contains (by decide)) (by decide +kernel) (by decide +kernel)

/-- The validator takes the encodings over the standard alphabet, up to spare
    bits. -/
theorem isBase64_iff (s : String) :
    isBase64 s = true
      ↔ ∃ bytes, AgreesUpToSpareBits standard s.toList (encode standard bytes) := by
  rw [isBase64, Regex.accepts_iff rfl, mem_language_iff_encode spells_standard]

/-- The validator takes the encodings over the alphabet for addresses, up to
    spare bits. -/
theorem isBase64Url_iff (s : String) :
    isBase64Url s = true
      ↔ ∃ bytes, AgreesUpToSpareBits urlSafe s.toList (encode urlSafe bytes) := by
  rw [isBase64Url, Regex.accepts_iff rfl, mem_language_iff_encode spells_urlSafe]

/-- **THE VALIDATORS TAKE PADDED ENCODINGS ONLY**: a text is taken exactly if
    it is the encoding of some bytes in the alphabet of the validator, but
    for the bits of its last sextet that the padding leaves unused; so every
    encoding is taken. -/
theorem validators_take_encodings :
    (∀ s, isBase64 s = true
      ↔ ∃ bytes, AgreesUpToSpareBits standard s.toList (encode standard bytes))
    ∧ (∀ s, isBase64Url s = true
      ↔ ∃ bytes, AgreesUpToSpareBits urlSafe s.toList (encode urlSafe bytes))
    ∧ ∀ bytes, isBase64 (String.ofList (encode standard bytes)) = true
      ∧ isBase64Url (String.ofList (encode urlSafe bytes)) = true := by
  refine ⟨isBase64_iff, isBase64Url_iff, fun bytes => ⟨?_, ?_⟩⟩
  · rw [isBase64_iff, String.toList_ofList]
    exact ⟨bytes, Or.inl rfl⟩
  · rw [isBase64Url_iff, String.toList_ofList]
    exact ⟨bytes, Or.inl rfl⟩

/-- Five bytes leave two bits of the last sextet unused. -/
example : encode standard [0x68, 0x65, 0x6C, 0x6C, 0x6F] = "aGVsbG8=".toList := by decide +kernel

end RuleTree.Format.Base64
