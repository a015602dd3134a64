import Formula.Files.Contents

/-! Every text can be the content of a file. The bytes that its characters are encoded as are
decoded to the text again: no character is encoded longer than it needs, as a surrogate, or beyond
the last code point. -/
namespace Formula.Text

theorem takeContinuation_cons {least greatest count bits byte : Nat} {rest : List Nat}
    {result : Nat × List Nat} (inside : least ≤ byte ∧ byte ≤ greatest)
    (taken : takeContinuation 0x80 0xBF count (bits * 0x40 + byte % 0x40) rest = .ok result) :
    takeContinuation least greatest (count + 1) bits (byte :: rest) = .ok result := by
  rw [takeContinuation, if_pos inside, taken]

theorem takeCharacter_eq_ok {byte : Nat} {lead : Lead} {n : Nat} {rest after : List Nat}
    (begins : lead? byte = some lead)
    (taken : takeContinuation lead.least lead.greatest lead.following lead.bits rest =
      .ok (n, after)) (position : Nat) :
    takeCharacter position byte rest = .ok (Char.ofNat n, lead.following + 1, after) := by
  rw [takeCharacter, begins]
  simp only [taken]

section
variable {n : Nat}

/-! The bounds of the second byte admit just what fewer bytes do not encode, what is no surrogate,
and what is a code point. -/

theorem takeCharacter_one (ascii : n < 0x80) (position : Nat) (rest : List Nat) :
    takeCharacter position n rest = .ok (Char.ofNat n, 1, rest) := by
  have lead : lead? n = some ⟨0, n, 0, 0⟩ := if_pos ascii
  exact takeCharacter_eq_ok lead rfl position

theorem takeCharacter_two (least : 0x80 ≤ n) (most : n < 0x800) (position : Nat)
    (rest : List Nat) :
    takeCharacter position (n / 0x40 + 0xC0) ((n % 0x40 + 0x80) :: rest) =
      .ok (Char.ofNat n, 2, rest) := by
  have lead : lead? (n / 0x40 + 0xC0) = some ⟨1, n / 0x40, 0x80, 0xBF⟩ := by
    have bits : (n / 0x40 + 0xC0) % 0x20 = n / 0x40 := by omega
    rw [lead?, if_neg (by omega), if_neg (by omega), if_pos (by omega), bits]
  have number : n / 0x40 * 0x40 + (n % 0x40 + 0x80) % 0x40 = n := by omega
  have second : 0x80 ≤ n % 0x40 + 0x80 ∧ n % 0x40 + 0x80 ≤ 0xBF := by omega
  refine takeCharacter_eq_ok lead (takeContinuation_cons second ?_) position
  rw [number, takeContinuation]

theorem lead?_three (valid : n < 0xD800 ∨ 0xDFFF < n) (least : 0x800 ≤ n) (most : n < 0x10000) :
    ∃ lead, lead? (n / 0x1000 + 0xE0) = some lead ∧ lead.following = 2 ∧ lead.bits = n / 0x1000 ∧
      lead.least ≤ n / 0x40 % 0x40 + 0x80 ∧ n / 0x40 % 0x40 + 0x80 ≤ lead.greatest := by
  have bits : (n / 0x1000 + 0xE0) % 0x10 = n / 0x1000 := by omega
  rw [lead?, if_neg (by omega), if_neg (by omega), if_neg (by omega)]
  split
  · exact ⟨_, rfl, rfl, by dsimp only; omega, by dsimp only; omega, by dsimp only; omega⟩
  · split
    · exact ⟨_, rfl, rfl, bits, by dsimp only; omega, by dsimp only; omega⟩
    · rw [if_pos (by omega)]
      exact ⟨_, rfl, rfl, bits, by dsimp only; omega, by dsimp only; omega⟩

theorem lead?_four (least : 0x10000 ≤ n) (most : n < 0x110000) :
    ∃ lead, lead? (n / 0x40000 + 0xF0) = some lead ∧ lead.following = 3 ∧ lead.bits = n / 0x40000 ∧
      lead.least ≤ n / 0x1000 % 0x40 + 0x80 ∧ n / 0x1000 % 0x40 + 0x80 ≤ lead.greatest := by
  have bits : (n / 0x40000 + 0xF0) % 0x08 = n / 0x40000 := by omega
  rw [lead?, if_neg (by omega), if_neg (by omega), if_neg (by omega), if_neg (by omega),
    if_neg (by omega), if_neg (by omega)]
  split
  · exact ⟨_, rfl, rfl, by dsimp only; omega, by dsimp only; omega, by dsimp only; omega⟩
  · split
    · exact ⟨_, rfl, rfl, bits, by dsimp only; omega, by dsimp only; omega⟩
    · rw [if_pos (by omega)]
      exact ⟨_, rfl, rfl, by dsimp only; omega, by dsimp only; omega, by dsimp only; omega⟩

theorem takeCharacter_three (valid : n < 0xD800 ∨ 0xDFFF < n) (least : 0x800 ≤ n)
    (most : n < 0x10000) (position : Nat) (rest : List Nat) :
    takeCharacter position (n / 0x1000 + 0xE0)
        ((n / 0x40 % 0x40 + 0x80) :: (n % 0x40 + 0x80) :: rest) = .ok (Char.ofNat n, 3, rest) := by
  obtain ⟨lead, begins, following, bits, second⟩ := lead?_three valid least most
  have number : (n / 0x1000 * 0x40 + (n / 0x40 % 0x40 + 0x80) % 0x40) * 0x40 +
      (n % 0x40 + 0x80) % 0x40 = n := by omega
  have taken : takeContinuation lead.least lead.greatest lead.following lead.bits
      ((n / 0x40 % 0x40 + 0x80) :: (n % 0x40 + 0x80) :: rest) = .ok (n, rest) := by
    rw [following, bits]
    refine takeContinuation_cons second (takeContinuation_cons (by omega) ?_)
    rw [number, takeContinuation]
  rw [takeCharacter_eq_ok begins taken, following]

theorem takeCharacter_four (least : 0x10000 ≤ n) (most : n < 0x110000) (position : Nat)
    (rest : List Nat) :
    takeCharacter position (n / 0x40000 + 0xF0) ((n / 0x1000 % 0x40 + 0x80) ::
        (n / 0x40 % 0x40 + 0x80) :: (n % 0x40 + 0x80) :: rest) = .ok (Char.ofNat n, 4, rest) := by
  obtain ⟨lead, begins, following, bits, second⟩ := lead?_four least most
  have number : ((n / 0x40000 * 0x40 + (n / 0x1000 % 0x40 + 0x80) % 0x40) * 0x40 +
      (n / 0x40 % 0x40 + 0x80) % 0x40) * 0x40 + (n % 0x40 + 0x80) % 0x40 = n := by omega
  have taken : takeContinuation lead.least lead.greatest lead.following lead.bits
      ((n / 0x1000 % 0x40 + 0x80) :: (n / 0x40 % 0x40 + 0x80) :: (n % 0x40 + 0x80) :: rest) =
        .ok (n, rest) := by
    rw [following, bits]
    refine takeContinuation_cons second
      (takeContinuation_cons (by omega) (takeContinuation_cons (by omega) ?_))
    rw [number, takeContinuation]
  rw [takeCharacter_eq_ok begins taken, following]

end

/-- What a character is encoded as is taken as that character. -/
theorem takeCharacter_encoded (c : Char) (position : Nat) (rest : List Nat) :
    ∃ byte more, (String.utf8EncodeChar c).map UInt8.toNat = byte :: more ∧
      takeCharacter position byte (more ++ rest) = .ok (c, more.length + 1, rest) := by
  have valid : c.toNat < 0xD800 ∨ 0xDFFF < c.toNat ∧ c.toNat < 0x110000 := c.valid
  have self : Char.ofNat c.toNat = c := Char.ofNat_toNat c
  have encoded : String.utf8EncodeChar c =
    if c.toNat ≤ 0x7F then [.ofNat c.toNat]
    else if c.toNat ≤ 0x7FF then
      [.ofNat (c.toNat / 0x40 % 0x20 + 0xC0), .ofNat (c.toNat % 0x40 + 0x80)]
    else if c.toNat ≤ 0xFFFF then
      [.ofNat (c.toNat / 0x1000 % 0x10 + 0xE0), .ofNat (c.toNat / 0x40 % 0x40 + 0x80),
        .ofNat (c.toNat % 0x40 + 0x80)]
    else
      [.ofNat (c.toNat / 0x40000 % 0x08 + 0xF0), .ofNat (c.toNat / 0x1000 % 0x40 + 0x80),
        .ofNat (c.toNat / 0x40 % 0x40 + 0x80), .ofNat (c.toNat % 0x40 + 0x80)] := rfl
  have toNat {n : Nat} (small : n < 0x100) : (UInt8.ofNat n).toNat = n :=
    UInt8.toNat_ofNat_of_lt' small
  rw [encoded]
  split
  · refine ⟨c.toNat, [], by rw [List.map_singleton, toNat (by omega)], ?_⟩
    rw [List.nil_append, takeCharacter_one (by omega), self]
    rfl
  split
  · have leading : c.toNat / 0x40 % 0x20 = c.toNat / 0x40 := by omega
    refine ⟨_, _, by rw [List.map_cons, List.map_singleton, toNat (by omega), toNat (by omega)],
      ?_⟩
    rw [leading, List.singleton_append, takeCharacter_two (by omega) (by omega), self]
    rfl
  split
  · have leading : c.toNat / 0x1000 % 0x10 = c.toNat / 0x1000 := by omega
    refine ⟨_, _, by rw [List.map_cons, List.map_cons, List.map_singleton, toNat (by omega),
      toNat (by omega), toNat (by omega)], ?_⟩
    rw [leading]
    exact (takeCharacter_three (by omega) (by omega) (by omega) position rest).trans
      (by rw [self]; rfl)
  · have leading : c.toNat / 0x40000 % 0x08 = c.toNat / 0x40000 := by omega
    refine ⟨_, _, by rw [List.map_cons, List.map_cons, List.map_cons, List.map_singleton,
      toNat (by omega), toNat (by omega), toNat (by omega), toNat (by omega)], ?_⟩
    rw [leading]
    exact (takeCharacter_four (by omega) (by omega) position rest).trans (by rw [self]; rfl)

/-- The bytes of a text in UTF-8. -/
def encode (text : List Char) : List UInt8 :=
  text.flatMap String.utf8EncodeChar

theorem decodeFrom_encode (text : List Char) (fuel position : Nat)
    (enough : (encode text).length ≤ fuel) :
    decodeFrom fuel position ((encode text).map UInt8.toNat) = .ok text := by
  induction text generalizing fuel position with
  | nil => cases fuel <;> rfl
  | cons c text ih =>
    obtain ⟨byte, more, bytes, taken⟩ :=
      takeCharacter_encoded c position ((encode text).map UInt8.toNat)
    have length := congrArg List.length bytes
    have encoded : encode (c :: text) = String.utf8EncodeChar c ++ encode text := rfl
    rw [List.length_map, List.length_cons] at length
    rw [encoded, List.length_append] at enough
    rw [encoded, List.map_append, bytes]
    obtain _ | fuel := fuel
    · omega
    have others := ih fuel (position + (more.length + 1)) (by omega)
    rw [List.cons_append, decodeFrom, taken]
    exact congrArg (Except.map (c :: ·)) others

/-- Every text is decoded from the bytes that it is encoded as. -/
theorem decode_encode (text : List Char) : decode (encode text) = .ok text :=
  decodeFrom_encode text _ 0 (Nat.le_refl _)

end Formula.Text
