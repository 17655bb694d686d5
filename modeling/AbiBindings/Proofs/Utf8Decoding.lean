import Mathlib.Data.List.Infix
import AbiBindings.Text.Utf8

/-!
# Decoding bytes that may not be UTF-8

`Decodes` says which characters stand for a byte sequence, without regard to how it is searched: a
character stands for its bytes, and one replacement character for each longest run of bytes that
begins a character and does not go on as one. The decoder finds exactly these characters
(`decodes_iff`). Sequences are decoded apart from each other unless the second begins with a byte
that could go on a character of the first (`decodeLossy_append`).
-/

set_option autoImplicit false

namespace AbiBindings.Text.Utf8

/-! ## The bytes of a character -/

/-- Whether a byte sequence is the bytes of one character, by its length and the bounds of its
bytes. -/
inductive IsCharacter : List UInt8 → Prop
  | one {a : UInt8} (ha : a < 0x80) : IsCharacter [a]
  | two {a b : UInt8} (ha : 0xC2 ≤ a ∧ a ≤ 0xDF) (hb : isContinuation b) : IsCharacter [a, b]
  | three {a b c : UInt8} (ha : 0xE0 ≤ a ∧ a ≤ 0xEF) (hb : followsThree a b)
    (hc : isContinuation c) : IsCharacter [a, b, c]
  | four {a b c d : UInt8} (ha : 0xF0 ≤ a ∧ a ≤ 0xF4) (hb : followsFour a b)
    (hc : isContinuation c) (hd : isContinuation d) : IsCharacter [a, b, c, d]

/-- The bytes that continue a character, by their values. -/
theorem isContinuation_iff {b : UInt8} : isContinuation b ↔ 0x80 ≤ b.toNat ∧ b.toNat ≤ 0xBF := by
  simp [isContinuation, UInt8.le_iff_toNat_le]

/-- The second bytes of characters of three bytes, by their values. -/
theorem followsThree_iff {a b : UInt8} : followsThree a b ↔ 0x80 ≤ b.toNat ∧ b.toNat ≤ 0xBF ∧
    (a.toNat = 0xE0 → 0xA0 ≤ b.toNat) ∧ (a.toNat = 0xED → b.toNat ≤ 0x9F) := by
  simp only [followsThree, beq_iff_eq, ← UInt8.toNat_inj]
  split_ifs <;> simp_all [isContinuation, UInt8.le_iff_toNat_le] <;> omega

/-- The second bytes of characters of four bytes, by their values. -/
theorem followsFour_iff {a b : UInt8} : followsFour a b ↔ 0x80 ≤ b.toNat ∧ b.toNat ≤ 0xBF ∧
    (a.toNat = 0xF0 → 0x90 ≤ b.toNat) ∧ (a.toNat = 0xF4 → b.toNat ≤ 0x8F) := by
  simp only [followsFour, beq_iff_eq, ← UInt8.toNat_inj]
  split_ifs <;> simp_all [isContinuation, UInt8.le_iff_toNat_le] <;> omega

/-- The second byte of a character of three bytes continues it. -/
theorem isContinuation_of_followsThree {a b : UInt8} (h : followsThree a b) : isContinuation b := by
  obtain ⟨hlow, hhigh, -, -⟩ := followsThree_iff.1 h
  exact isContinuation_iff.2 ⟨hlow, hhigh⟩

/-- The second byte of a character of four bytes continues it. -/
theorem isContinuation_of_followsFour {a b : UInt8} (h : followsFour a b) : isContinuation b := by
  obtain ⟨hlow, hhigh, -, -⟩ := followsFour_iff.1 h
  exact isContinuation_iff.2 ⟨hlow, hhigh⟩

/-- The bytes of a character are those of one. -/
theorem isCharacter_encodeChar (c : Char) : IsCharacter (encodeChar c) := by
  have hvalid : c.toNat < 0xD800 ∨ 0xDFFF < c.toNat ∧ c.toNat < 0x110000 := c.valid
  unfold encodeChar
  dsimp only
  split_ifs with h₁ h₂ h₃
  · refine .one ?_
    simp [UInt8.lt_iff_toNat_lt]
    omega
  · refine .two ?_ ?_
    · simp [UInt8.le_iff_toNat_le]
      omega
    · simp [isContinuation_iff]
      omega
  · refine .three ?_ ?_ ?_
    · simp [UInt8.le_iff_toNat_le]
      omega
    · simp [followsThree_iff]
      omega
    · simp [isContinuation_iff]
      omega
  · refine .four ?_ ?_ ?_ ?_
    · simp [UInt8.le_iff_toNat_le]
      omega
    · simp [followsFour_iff]
      omega
    · simp [isContinuation_iff]
      omega
    · simp [isContinuation_iff]
      omega

/-- The character of the bytes of one character. -/
def assemble : List UInt8 → Char
  | [a] => Char.ofNat a.toNat
  | [a, b] => assembleTwo a b
  | [a, b, c] => assembleThree a b c
  | [a, b, c, d] => assembleFour a b c d
  | _ => replacement

/-- A character is assembled from its bytes. -/
theorem assemble_encodeChar (c : Char) : assemble (encodeChar c) = c := by
  have hvalid : c.toNat < 0xD800 ∨ 0xDFFF < c.toNat ∧ c.toNat < 0x110000 := c.valid
  have hchar {n : Nat} (h : n = c.toNat) : Char.ofNat n = c := by rw [h, Char.ofNat_toNat]
  unfold encodeChar
  dsimp only
  split_ifs with h₁ h₂ h₃
  all_goals
    simp only [assemble, assembleTwo, assembleThree, assembleFour, Nat.toUInt8_eq,
      UInt8.toNat_ofNat']
    refine hchar ?_
    omega

/-- The bytes of a character are read as that character, whatever follows them. -/
theorem front_of_isCharacter {a : UInt8} {tail : List UInt8} (h : IsCharacter (a :: tail))
    (rest : List UInt8) : front a (tail ++ rest) = .char (assemble (a :: tail)) rest := by
  cases h with
  | one ha => simp [front, ha, assemble]
  | two ha hb =>
    have ha' : ¬ a < 0x80 := by grind
    simp [front, ha', ha, hb, assemble]
  | three ha hb hc =>
    have ha' : ¬ a < 0x80 ∧ ¬ (0xC2 ≤ a ∧ a ≤ 0xDF) := by grind
    simp [front, ha', ha, hb, hc, assemble]
  | four ha hb hc hd =>
    have ha' : ¬ a < 0x80 ∧ ¬ (0xC2 ≤ a ∧ a ≤ 0xDF) ∧ ¬ (0xE0 ≤ a ∧ a ≤ 0xEF) := by grind
    simp [front, ha', ha, hb, hc, hd, assemble]

/-- A code point is that of its character. -/
theorem toNat_ofNat_of_valid {n : Nat} (h : n < 0xD800 ∨ 0xDFFF < n ∧ n < 0x110000) :
    (Char.ofNat n).toNat = n := by
  have hchar : Char.ofNat n = Char.ofNatAux n h := dif_pos h
  rw [hchar]
  rfl

/-- A character that is assembled has the bytes that it is assembled from. -/
theorem encodeChar_assemble {bytes : List UInt8} (h : IsCharacter bytes) :
    encodeChar (assemble bytes) = bytes := by
  cases h with
  | @one a ha =>
    rw [UInt8.lt_iff_toNat_lt] at ha
    have hn : (assemble [a]).toNat = a.toNat := by
      rw [assemble, toNat_ofNat_of_valid (by simp at ha; omega)]
    simp only [encodeChar, hn]
    rw [if_pos (by simpa using ha)]
    simp
  | @two a b ha hb =>
    simp [UInt8.le_iff_toNat_le] at ha
    rw [isContinuation_iff] at hb
    have hn : (assemble [a, b]).toNat = (a.toNat - 0xC0) * 64 + (b.toNat - 0x80) := by
      rw [assemble, assembleTwo, toNat_ofNat_of_valid (by omega)]
    simp only [encodeChar, hn]
    rw [if_neg (by omega), if_pos (by omega)]
    simp [← UInt8.toNat_inj]
    omega
  | @three a b c ha hb hc =>
    simp [UInt8.le_iff_toNat_le] at ha
    rw [followsThree_iff] at hb
    rw [isContinuation_iff] at hc
    have hn : (assemble [a, b, c]).toNat =
        (a.toNat - 0xE0) * 4096 + (b.toNat - 0x80) * 64 + (c.toNat - 0x80) := by
      rw [assemble, assembleThree, toNat_ofNat_of_valid (by omega)]
    simp only [encodeChar, hn]
    rw [if_neg (by omega), if_neg (by omega), if_pos (by omega)]
    simp [← UInt8.toNat_inj]
    omega
  | @four a b c d ha hb hc hd =>
    simp [UInt8.le_iff_toNat_le] at ha
    rw [followsFour_iff] at hb
    rw [isContinuation_iff] at hc hd
    have hn : (assemble [a, b, c, d]).toNat =
        (a.toNat - 0xF0) * 262144 + (b.toNat - 0x80) * 4096 + (c.toNat - 0x80) * 64 +
          (d.toNat - 0x80) := by
      rw [assemble, assembleFour, toNat_ofNat_of_valid (by omega)]
    simp only [encodeChar, hn]
    rw [if_neg (by omega), if_neg (by omega), if_neg (by omega)]
    simp [← UInt8.toNat_inj]
    omega

/-! ## What stands at the front -/

/-- Whether bytes are the first bytes of a character, or all of them. -/
def BeginsCharacter (bytes : List UInt8) : Prop :=
  ∃ c, bytes <+: encodeChar c

/-- Whether bytes are given up together in front of the others. No character is among them; more
than one byte is given up only if they begin a character; and they do not begin one any longer with
the byte behind them. -/
structure GivenUp (given rest : List UInt8) : Prop where
  nonempty : given ≠ []
  incomplete : ∀ c, ¬ encodeChar c <+: given
  begins : 1 < given.length → BeginsCharacter given
  ends : ∀ b ∈ rest.head?, ¬ BeginsCharacter (given ++ [b])

/-- Bytes begin a character exactly if some bytes behind them make one of them. -/
theorem beginsCharacter_iff {bytes : List UInt8} :
    BeginsCharacter bytes ↔ ∃ tail, IsCharacter (bytes ++ tail) := by
  constructor
  · rintro ⟨c, tail, htail⟩
    exact ⟨tail, htail ▸ isCharacter_encodeChar c⟩
  · rintro ⟨tail, h⟩
    exact ⟨assemble (bytes ++ tail), tail, (encodeChar_assemble h).symm⟩

/-- Whether the second byte may stand behind the first. -/
def Follows (a b : UInt8) : Prop :=
  (0xC2 ≤ a ∧ a ≤ 0xDF) ∧ isContinuation b ∨ (0xE0 ≤ a ∧ a ≤ 0xEF) ∧ followsThree a b ∨
    (0xF0 ≤ a ∧ a ≤ 0xF4) ∧ followsFour a b

/-- Two bytes begin a character if the second may follow the first. -/
theorem beginsCharacter_pair_iff {a b : UInt8} : BeginsCharacter [a, b] ↔ Follows a b := by
  have hcontinuation : isContinuation 0x80 := by decide
  rw [beginsCharacter_iff]
  constructor
  · rintro ⟨tail, h⟩
    cases h with
    | two ha hb => exact .inl ⟨ha, hb⟩
    | three ha hb _ => exact .inr (.inl ⟨ha, hb⟩)
    | four ha hb _ _ => exact .inr (.inr ⟨ha, hb⟩)
  · rintro (⟨ha, hb⟩ | ⟨ha, hb⟩ | ⟨ha, hb⟩)
    · exact ⟨[], .two ha hb⟩
    · exact ⟨[0x80], .three ha hb hcontinuation⟩
    · exact ⟨[0x80, 0x80], .four ha hb hcontinuation hcontinuation⟩

/-- Three bytes begin a character if the second may follow the first and the third continues. -/
theorem beginsCharacter_triple_iff {a b c : UInt8} : BeginsCharacter [a, b, c] ↔
    ((0xE0 ≤ a ∧ a ≤ 0xEF) ∧ followsThree a b ∨ (0xF0 ≤ a ∧ a ≤ 0xF4) ∧ followsFour a b) ∧
      isContinuation c := by
  have hcontinuation : isContinuation 0x80 := by decide
  rw [beginsCharacter_iff]
  constructor
  · rintro ⟨tail, h⟩
    cases h with
    | three ha hb hc => exact ⟨.inl ⟨ha, hb⟩, hc⟩
    | four ha hb hc _ => exact ⟨.inr ⟨ha, hb⟩, hc⟩
  · rintro ⟨⟨ha, hb⟩ | ⟨ha, hb⟩, hc⟩
    · exact ⟨[], .three ha hb hc⟩
    · exact ⟨[0x80], .four ha hb hc hcontinuation⟩

/-- A byte is given up if no byte follows that may. -/
theorem givenUp_one {a : UInt8} {rest : List UInt8} (ha : ¬ a < 0x80)
    (hrest : ∀ b ∈ rest.head?, ¬ Follows a b) : GivenUp [a] rest where
  nonempty := List.cons_ne_nil _ _
  incomplete c hc := by
    have hcharacter := isCharacter_encodeChar c
    generalize encodeChar c = bytes at hc hcharacter
    cases hcharacter with
    | one ha' =>
      simp at hc
      exact ha (hc ▸ ha')
    | two | three | four => simp at hc
  begins h := by simp at h
  ends b hb hbegins := hrest b hb (beginsCharacter_pair_iff.1 hbegins)

/-- Two bytes are given up if no byte follows that continues. -/
theorem givenUp_two {a b : UInt8} {rest : List UInt8}
    (hbegins : (0xE0 ≤ a ∧ a ≤ 0xEF) ∧ followsThree a b ∨ (0xF0 ≤ a ∧ a ≤ 0xF4) ∧ followsFour a b)
    (hrest : ∀ c ∈ rest.head?, ¬ isContinuation c) : GivenUp [a, b] rest where
  nonempty := List.cons_ne_nil _ _
  incomplete c hc := by
    have ha : 0xE0 ≤ a := by
      rcases hbegins with ⟨ha, -⟩ | ⟨ha, -⟩
      · exact ha.1
      · grind
    have hcharacter := isCharacter_encodeChar c
    generalize encodeChar c = bytes at hc hcharacter
    cases hcharacter with
    | one ha' | two ha' =>
      simp at hc
      grind
    | three | four => simp at hc
  begins _ := beginsCharacter_pair_iff.2 (.inr hbegins)
  ends c hc h := hrest c hc (beginsCharacter_triple_iff.1 h).2

/-- Three bytes are given up if no byte follows that continues. -/
theorem givenUp_three {a b c : UInt8} {rest : List UInt8} (ha : 0xF0 ≤ a ∧ a ≤ 0xF4)
    (hb : followsFour a b) (hc : isContinuation c) (hrest : ∀ d ∈ rest.head?, ¬ isContinuation d) :
    GivenUp [a, b, c] rest where
  nonempty := List.cons_ne_nil _ _
  incomplete e he := by
    have hcharacter := isCharacter_encodeChar e
    generalize encodeChar e = bytes at he hcharacter
    cases hcharacter with
    | one ha' | two ha' | three ha' =>
      simp at he
      grind
    | four => simp at he
  begins _ := beginsCharacter_triple_iff.2 ⟨.inr ⟨ha, hb⟩, hc⟩
  ends d hd h := by
    obtain ⟨tail, hcharacter⟩ := beginsCharacter_iff.1 h
    cases hcharacter with
    | four _ _ _ hd' => exact hrest d hd hd'

/-- Whether what a reader finds at the front of bytes stands there: a character with its bytes, or
bytes that are given up together. -/
def Front.StandsAt (bytes : List UInt8) : Front → Prop
  | .char c rest => bytes = encodeChar c ++ rest
  | .broken rest => ∃ given, bytes = given ++ rest ∧ GivenUp given rest

/-- The bytes of a character stand at the front as that character. -/
theorem standsAt_assemble {bytes : List UInt8} (h : IsCharacter bytes) (rest : List UInt8) :
    (Front.char (assemble bytes) rest).StandsAt (bytes ++ rest) := by
  rw [Front.StandsAt, encodeChar_assemble h]

/-- What is taken from the front stands there. -/
theorem standsAt_front (a : UInt8) (rest : List UInt8) :
    (front a rest).StandsAt (a :: rest) := by
  -- the cases are those of the decoder: by the length that the first byte asks for, and by how many
  -- of the bytes behind it go on the character
  fun_cases front a rest with
  | case1 rest ha => exact standsAt_assemble (.one ha) rest
  | case2 ha htwo b rest hb =>
    simp only [Bool.and_eq_true, decide_eq_true_eq] at htwo
    exact standsAt_assemble (.two htwo hb) rest
  | case3 ha htwo b rest hb =>
    refine ⟨[a], rfl, givenUp_one ha ?_⟩
    simp [Follows]
    grind
  | case4 ha htwo => exact ⟨[a], rfl, givenUp_one ha (by simp)⟩
  | case5 ha htwo hthree b hb c rest hc =>
    simp only [Bool.and_eq_true, decide_eq_true_eq] at hthree
    exact standsAt_assemble (.three hthree hb hc) rest
  | case6 ha htwo hthree b hb c rest hc =>
    simp only [Bool.and_eq_true, decide_eq_true_eq] at hthree
    exact ⟨[a, b], rfl, givenUp_two (.inl ⟨hthree, hb⟩) (by simpa using hc)⟩
  | case7 ha htwo hthree b hb =>
    simp only [Bool.and_eq_true, decide_eq_true_eq] at hthree
    exact ⟨[a, b], rfl, givenUp_two (.inl ⟨hthree, hb⟩) (by simp)⟩
  | case8 ha htwo hthree b rest hb =>
    refine ⟨[a], rfl, givenUp_one ha ?_⟩
    simp [Follows]
    grind
  | case9 ha htwo hthree => exact ⟨[a], rfl, givenUp_one ha (by simp)⟩
  | case10 ha htwo hthree hfour b hb c hc d rest hd =>
    simp only [Bool.and_eq_true, decide_eq_true_eq] at hfour
    exact standsAt_assemble (.four hfour hb hc hd) rest
  | case11 ha htwo hthree hfour b hb c hc d rest hd =>
    simp only [Bool.and_eq_true, decide_eq_true_eq] at hfour
    exact ⟨[a, b, c], rfl, givenUp_three hfour hb hc (by simpa using hd)⟩
  | case12 ha htwo hthree hfour b hb c hc =>
    simp only [Bool.and_eq_true, decide_eq_true_eq] at hfour
    exact ⟨[a, b, c], rfl, givenUp_three hfour hb hc (by simp)⟩
  | case13 ha htwo hthree hfour b hb c rest hc =>
    simp only [Bool.and_eq_true, decide_eq_true_eq] at hfour
    exact ⟨[a, b], rfl, givenUp_two (.inr ⟨hfour, hb⟩) (by simpa using hc)⟩
  | case14 ha htwo hthree hfour b hb =>
    simp only [Bool.and_eq_true, decide_eq_true_eq] at hfour
    exact ⟨[a, b], rfl, givenUp_two (.inr ⟨hfour, hb⟩) (by simp)⟩
  | case15 ha htwo hthree hfour b rest hb =>
    refine ⟨[a], rfl, givenUp_one ha ?_⟩
    simp [Follows]
    grind
  | case16 ha htwo hthree hfour => exact ⟨[a], rfl, givenUp_one ha (by simp)⟩
  | case17 rest ha htwo hthree hfour =>
    refine ⟨[a], rfl, givenUp_one ha ?_⟩
    simp [Follows]
    grind

/-! ## Bytes that are given up -/

variable {given given' rest rest' : List UInt8}

/-- No character stands in front of bytes that begin with bytes that are given up. -/
theorem GivenUp.not_encodeChar_prefix (h : GivenUp given rest) (c : Char) :
    ¬ encodeChar c <+: given ++ rest := by
  rintro ⟨tail, htail⟩
  rcases List.append_eq_append_iff.1 htail with ⟨more, hgiven, -⟩ | ⟨more, hcharacter, hrest⟩
  · exact h.incomplete c ⟨more, hgiven.symm⟩
  · cases more with
    | nil => exact h.incomplete c ⟨[], by rw [hcharacter, List.append_nil, List.append_nil]⟩
    | cons b more =>
      refine h.ends b (by simp [hrest]) ⟨c, more, ?_⟩
      rw [hcharacter, List.append_assoc, List.singleton_append]

/-- How many bytes are given up is settled by what stands there. -/
theorem GivenUp.eq_of_append_eq (h : GivenUp given rest) (h' : GivenUp given' rest')
    (happend : given ++ rest = given' ++ rest') : rest = rest' := by
  -- the longer run would begin a character with the byte at which the shorter one ends
  have hlonger {given given' rest rest' more : List UInt8} (h : GivenUp given rest)
      (h' : GivenUp given' rest') (hgiven : given' = given ++ more) (hrest : rest = more ++ rest') :
      rest = rest' := by
    cases more with
    | nil => exact hrest
    | cons b more =>
      have hpositive := List.length_pos_iff.2 h.nonempty
      have hlength : 1 < given'.length := by
        rw [hgiven, List.length_append, List.length_cons]
        omega
      obtain ⟨c, tail, htail⟩ := h'.begins hlength
      refine absurd ⟨c, more ++ tail, ?_⟩ (h.ends b (by simp [hrest]))
      rw [← htail, hgiven]
      simp
  rcases List.append_eq_append_iff.1 happend with ⟨more, hgiven, hrest⟩ | ⟨more, hgiven, hrest⟩
  · exact hlonger h h' hgiven hrest
  · exact (hlonger h' h hgiven hrest).symm

/-- All bytes of a character but the first continue it. -/
theorem IsCharacter.isContinuation_of_mem_tail {a b : UInt8} {tail : List UInt8}
    (h : IsCharacter (a :: tail)) (hb : b ∈ tail) : isContinuation b := by
  cases h with
  | one => cases hb
  | two _ hb' =>
    obtain rfl := List.mem_singleton.1 hb
    exact hb'
  | three _ hb' hc =>
    have hsecond := isContinuation_of_followsThree hb'
    simp only [List.mem_cons, List.not_mem_nil, or_false] at hb
    rcases hb with rfl | rfl
    · exact hsecond
    · exact hc
  | four _ hb' hc hd =>
    have hsecond := isContinuation_of_followsFour hb'
    simp only [List.mem_cons, List.not_mem_nil, or_false] at hb
    rcases hb with rfl | rfl | rfl
    · exact hsecond
    · exact hc
    · exact hd

/-- Bytes that are given up at the end of a sequence are given up in front of further bytes, unless
these begin with one that could go on a character. -/
theorem GivenUp.append (h : GivenUp given rest) {more : List UInt8}
    (hmore : ∀ b ∈ more.head?, ¬ isContinuation b) : GivenUp given (rest ++ more) where
  nonempty := h.nonempty
  incomplete := h.incomplete
  begins := h.begins
  ends b hb hbegins := by
    cases rest with
    | cons b' rest =>
      obtain rfl : b' = b := by simpa using hb
      exact h.ends b' rfl hbegins
    | nil =>
      obtain ⟨a, tail, rfl⟩ := List.exists_cons_of_ne_nil h.nonempty
      obtain ⟨tail', hcharacter⟩ := beginsCharacter_iff.1 hbegins
      exact hmore b hb (hcharacter.isContinuation_of_mem_tail (by simp))

/-! ## Decoding -/

/-- Which characters stand for a byte sequence: a character for its bytes, and the replacement
character for bytes that are given up together. -/
inductive Decodes : List UInt8 → List Char → Prop
  | nil : Decodes [] []
  | char (c : Char) {rest : List UInt8} {cs : List Char} (h : Decodes rest cs) :
      Decodes (encodeChar c ++ rest) (c :: cs)
  | broken {given rest : List UInt8} {cs : List Char} (hgiven : GivenUp given rest)
      (h : Decodes rest cs) : Decodes (given ++ rest) (replacement :: cs)

/-- A character at the front is decoded. -/
theorem decodeLossy_of_char {a : UInt8} {c : Char} (h : front a rest = .char c rest') :
    decodeLossy (a :: rest) = c :: decodeLossy rest' := by
  rw [decodeLossy]
  split <;> simp_all

/-- Broken bytes at the front are replaced. -/
theorem decodeLossy_of_broken {a : UInt8} (h : front a rest = .broken rest') :
    decodeLossy (a :: rest) = replacement :: decodeLossy rest' := by
  rw [decodeLossy]
  split <;> simp_all

/-- Bytes are decoded to the characters that they stand for. -/
theorem decodes_decodeLossy (bytes : List UInt8) : Decodes bytes (decodeLossy bytes) := by
  induction bytes using decodeLossy.induct with
  | case1 =>
    rw [decodeLossy]
    exact .nil
  | case2 a rest c rest' hfront _ ih =>
    have hstands := standsAt_front a rest
    rw [hfront] at hstands
    rw [decodeLossy_of_char hfront, hstands]
    exact .char c ih
  | case3 a rest rest' hfront _ ih =>
    have hstands := standsAt_front a rest
    rw [hfront] at hstands
    obtain ⟨given, hbytes, hgiven⟩ := hstands
    rw [decodeLossy_of_broken hfront, hbytes]
    exact .broken hgiven ih

/-- The bytes of a character at the front are decoded to it. -/
theorem decodeLossy_encodeChar_append (c : Char) (rest : List UInt8) :
    decodeLossy (encodeChar c ++ rest) = c :: decodeLossy rest := by
  have hcharacter := isCharacter_encodeChar c
  have hassemble := assemble_encodeChar c
  generalize encodeChar c = bytes at hcharacter hassemble ⊢
  cases bytes with
  | nil => cases hcharacter
  | cons a tail =>
    have hfront := front_of_isCharacter hcharacter rest
    rw [hassemble] at hfront
    exact decodeLossy_of_char hfront

/-- Bytes at the front that are given up are replaced. -/
theorem decodeLossy_append_of_givenUp (h : GivenUp given rest) :
    decodeLossy (given ++ rest) = replacement :: decodeLossy rest := by
  obtain ⟨a, tail, rfl⟩ := List.exists_cons_of_ne_nil h.nonempty
  have hstands := standsAt_front a (tail ++ rest)
  cases hfront : front a (tail ++ rest) with
  | char c rest' =>
    rw [hfront] at hstands
    exact absurd ⟨rest', hstands.symm⟩ (h.not_encodeChar_prefix c)
  | broken rest' =>
    rw [hfront] at hstands
    obtain ⟨given', hbytes, hgiven⟩ := hstands
    rw [List.cons_append, decodeLossy_of_broken hfront, h.eq_of_append_eq hgiven hbytes]

/-- The decoder finds exactly the characters that stand for a sequence. -/
theorem decodes_iff {bytes : List UInt8} {cs : List Char} :
    Decodes bytes cs ↔ decodeLossy bytes = cs := by
  constructor
  · intro h
    induction h with
    | nil => rw [decodeLossy]
    | char c _ ih => rw [decodeLossy_encodeChar_append, ih]
    | broken hgiven _ ih => rw [decodeLossy_append_of_givenUp hgiven, ih]
  · rintro rfl
    exact decodes_decodeLossy bytes

/-- Bytes may be decoded in two parts if the second does not begin with one that continues. -/
theorem Decodes.append {bytes more : List UInt8} {cs ds : List Char} (h : Decodes bytes cs)
    (hmore : ∀ b ∈ more.head?, ¬ isContinuation b) (h' : Decodes more ds) :
    Decodes (bytes ++ more) (cs ++ ds) := by
  induction h with
  | nil => exact h'
  | char c _ ih =>
    rw [List.append_assoc]
    exact .char c ih
  | broken hgiven _ ih =>
    rw [List.append_assoc]
    exact .broken (hgiven.append hmore) ih

/-- Sequences are decoded apart from each other, unless the second begins with a byte that could go
on a character. -/
theorem decodeLossy_append (bytes : List UInt8) {more : List UInt8}
    (hmore : ∀ b ∈ more.head?, ¬ isContinuation b) :
    decodeLossy (bytes ++ more) = decodeLossy bytes ++ decodeLossy more :=
  decodes_iff.1 ((decodes_decodeLossy bytes).append hmore (decodes_decodeLossy more))

/-- The bytes of characters are decoded to them. -/
theorem decodeLossy_encodeChars (cs : List Char) : decodeLossy (encodeChars cs) = cs := by
  induction cs with
  | nil =>
    rw [encodeChars, List.flatMap_nil, decodeLossy]
  | cons c cs ih =>
    rw [encodeChars, List.flatMap_cons, decodeLossy_encodeChar_append]
    exact congrArg (c :: ·) ih

/-- Characters have the bytes that the library gives them. -/
theorem encodeChar_eq_utf8EncodeChar (c : Char) : encodeChar c = String.utf8EncodeChar c := by
  have hvalid : c.toNat < 0xD800 ∨ 0xDFFF < c.toNat ∧ c.toNat < 0x110000 := c.valid
  have hcode : c.val.toNat = c.toNat := rfl
  simp only [encodeChar, String.utf8EncodeChar, hcode, Nat.le_iff_lt_add_one, Nat.reduceAdd]
  split_ifs
  · rfl
  all_goals
    simp [← UInt8.toNat_inj]
    omega

/-- Texts have the bytes that the library gives them. -/
theorem encode_eq_toUTF8 (s : String) : encode s = s.toUTF8.data.toList := by
  have htext : s.toUTF8 = s.toList.utf8Encode := by
    rw [String.toUTF8, ← String.toByteArray_ofList, String.ofList_toList]
  rw [htext, List.utf8Encode, encode, encodeChars, funext encodeChar_eq_utf8EncodeChar]
  simp

/-- The bytes of a text are read as that text. -/
theorem textLossy_toUTF8 (s : String) : textLossy s.toUTF8.data.toList = s := by
  rw [← encode_eq_toUTF8, textLossy, encode, decodeLossy_encodeChars, String.ofList_toList]

/-- Bytes below 128 are characters on their own, whatever follows them. -/
theorem decodeLossy_ascii_append {bytes : List UInt8} (h : ∀ b ∈ bytes, b < 0x80)
    (rest : List UInt8) :
    decodeLossy (bytes ++ rest) = (bytes.map fun b => Char.ofNat b.toNat) ++ decodeLossy rest := by
  induction bytes with
  | nil => rfl
  | cons b bytes ih =>
    obtain ⟨hb, hbytes⟩ := List.forall_mem_cons.1 h
    have hcharacter : encodeChar (Char.ofNat b.toNat) = [b] := encodeChar_assemble (.one hb)
    have happend := decodeLossy_encodeChar_append (Char.ofNat b.toNat) (bytes ++ rest)
    rw [hcharacter, List.singleton_append, ih hbytes] at happend
    exact happend

/-- Bytes of ASCII are decoded one by one. -/
theorem decodeLossy_ascii {bytes : List UInt8} (h : ∀ b ∈ bytes, b < 0x80) :
    decodeLossy bytes = bytes.map fun b => Char.ofNat b.toNat := by
  have happend := decodeLossy_ascii_append h []
  rwa [List.append_nil, decodeLossy, List.append_nil] at happend

end AbiBindings.Text.Utf8
