import PageCompiler.Disk
import PageCompiler.Proofs.Results

/-!
# UTF-8 read back

A sequence of bytes may carry the number of a character (`Carries`) : the first byte says how many
follow, and the limits on the second one leave out the numbers that a shorter sequence carries, the
surrogates and those that are too large. These sequences are the ones that characters are written as
(`Carries.utf8EncodeChar_eq`, `carries_utf8EncodeChar`), and the ones that the reader finds
(`decodeFirst_eq_ok_iff`). So bytes are read as a text if and only if they are the bytes of that
text (`decode_eq_ok_iff`).
-/

namespace PageCompiler.Text

/-! ## One character -/

section

variable {b c : UInt8}

theorem isContinuation_iff : isContinuation b = true ↔ 0x80 ≤ b.toNat ∧ b.toNat < 0xC0 := by
  simp [isContinuation, UInt8.le_iff_toNat_le, UInt8.lt_iff_toNat_lt]

theorem secondByteFits_iff : secondByteFits b c = true ↔ isContinuation c = true ∧
    (b.toNat = 0xE0 → 0xA0 ≤ c.toNat) ∧ (b.toNat = 0xED → c.toNat < 0xA0) ∧
      (b.toNat = 0xF0 → 0x90 ≤ c.toNat) ∧ (b.toNat = 0xF4 → c.toNat < 0x90) := by
  rw [secondByteFits, Bool.and_eq_true]
  refine and_congr_right fun _ => ?_
  simp only [← UInt8.toNat_inj, UInt8.le_iff_toNat_le, UInt8.lt_iff_toNat_lt, UInt8.reduceToNat]
  grind

/-- A sequence of bytes carries the number of a character. -/
inductive Carries : List UInt8 → Nat → Prop
  | one {b : UInt8} (hb : b.toNat < 0x80) : Carries [b] b.toNat
  | two {b c : UInt8} {n : Nat} (hb : 0xC2 ≤ b.toNat) (hb' : b.toNat < 0xE0)
      (hc : isContinuation c) (hn : b.toNat % 0x20 * 0x40 + payload c = n) : Carries [b, c] n
  | three {b c d : UInt8} {n : Nat} (hb : 0xE0 ≤ b.toNat) (hb' : b.toNat < 0xF0)
      (hc : secondByteFits b c) (hd : isContinuation d)
      (hn : (b.toNat % 0x10 * 0x40 + payload c) * 0x40 + payload d = n) : Carries [b, c, d] n
  | four {b c d e : UInt8} {n : Nat} (hb : 0xF0 ≤ b.toNat) (hb' : b.toNat < 0xF5)
      (hc : secondByteFits b c) (hd : isContinuation d) (he : isContinuation e)
      (hn : ((b.toNat % 8 * 0x40 + payload c) * 0x40 + payload d) * 0x40 + payload e = n) :
      Carries [b, c, d, e] n

/-- The bytes of the character with a number, by the size of the number. -/
theorem utf8EncodeChar_ofNat {n : Nat} (h : n.isValidChar) :
    String.utf8EncodeChar (Char.ofNat n) =
      if n ≤ 0x7F then [UInt8.ofNat n]
      else if n ≤ 0x7FF then [UInt8.ofNat (n / 0x40 % 0x20 + 0xC0), UInt8.ofNat (n % 0x40 + 0x80)]
      else if n ≤ 0xFFFF then
        [UInt8.ofNat (n / 0x1000 % 0x10 + 0xE0), UInt8.ofNat (n / 0x40 % 0x40 + 0x80),
          UInt8.ofNat (n % 0x40 + 0x80)]
      else
        [UInt8.ofNat (n / 0x40000 % 8 + 0xF0), UInt8.ofNat (n / 0x1000 % 0x40 + 0x80),
          UInt8.ofNat (n / 0x40 % 0x40 + 0x80), UInt8.ofNat (n % 0x40 + 0x80)] := by
  have hn : (Char.ofNat n).val.toNat = n := congrArg Char.toNat (dif_pos h)
  rw [String.utf8EncodeChar, hn]

theorem ofNat_of_eq {n : Nat} (h : n = b.toNat) : UInt8.ofNat n = b := by
  rw [h, UInt8.ofNat_toNat]

/-- A sequence is how the character with the number that it carries is written. -/
theorem Carries.utf8EncodeChar_eq {bytes : List UInt8} {n : Nat} (h : Carries bytes n) :
    String.utf8EncodeChar (Char.ofNat n) = bytes := by
  cases h with
  | @one b hb => rw [utf8EncodeChar_ofNat (.inl (by omega)), if_pos (by omega), UInt8.ofNat_toNat]
  | @two b c n hb hb' hc hn =>
    have hc := isContinuation_iff.1 hc
    unfold payload at hn
    rw [utf8EncodeChar_ofNat (.inl (by omega)), if_neg (by omega), if_pos (by omega),
      ofNat_of_eq (b := b) (by omega), ofNat_of_eq (b := c) (by omega)]
  | @three b c d n hb hb' hc hd hn =>
    -- the limits keep the number above those of two bytes and away from the surrogates
    obtain ⟨hc, hshort, hsurrogate, -, -⟩ := secondByteFits_iff.1 hc
    have hc := isContinuation_iff.1 hc
    have hd := isContinuation_iff.1 hd
    unfold payload at hn
    rw [utf8EncodeChar_ofNat (by unfold Nat.isValidChar; omega), if_neg (by omega),
      if_neg (by omega), if_pos (by omega), ofNat_of_eq (b := b) (by omega),
      ofNat_of_eq (b := c) (by omega), ofNat_of_eq (b := d) (by omega)]
  | @four b c d e n hb hb' hc hd he hn =>
    -- the limits keep the number above those of three bytes and below the end of Unicode
    obtain ⟨hc, -, -, hshort, hlarge⟩ := secondByteFits_iff.1 hc
    have hc := isContinuation_iff.1 hc
    have hd := isContinuation_iff.1 hd
    have he := isContinuation_iff.1 he
    unfold payload at hn
    rw [utf8EncodeChar_ofNat (by unfold Nat.isValidChar; omega), if_neg (by omega),
      if_neg (by omega), if_neg (by omega), ofNat_of_eq (b := b) (by omega),
      ofNat_of_eq (b := c) (by omega), ofNat_of_eq (b := d) (by omega),
      ofNat_of_eq (b := e) (by omega)]

theorem isContinuation_ofNat (n : Nat) : isContinuation (UInt8.ofNat (n % 0x40 + 0x80)) = true := by
  rw [isContinuation_iff, UInt8.toNat_ofNat_of_lt' (show _ < 0x100 by omega)]
  omega

theorem payload_ofNat (n : Nat) : payload (UInt8.ofNat (n % 0x40 + 0x80)) = n % 0x40 := by
  rw [payload, UInt8.toNat_ofNat_of_lt' (show _ < 0x100 by omega)]
  omega

/-- What a character is written as carries its number. -/
theorem carries_utf8EncodeChar (a : Char) : Carries (String.utf8EncodeChar a) a.toNat := by
  have hvalid : a.toNat.isValidChar := a.valid
  have hbytes := utf8EncodeChar_ofNat hvalid
  rw [Char.ofNat_toNat] at hbytes
  rw [hbytes]
  generalize a.toNat = n at hvalid
  unfold Nat.isValidChar at hvalid
  by_cases h₁ : n ≤ 0x7F
  · rw [if_pos h₁]
    have hfirst : (UInt8.ofNat n).toNat = n := UInt8.toNat_ofNat_of_lt' (show _ < 0x100 by omega)
    simpa only [hfirst] using Carries.one (b := UInt8.ofNat n) (by omega)
  by_cases h₂ : n ≤ 0x7FF
  · rw [if_neg h₁, if_pos h₂]
    have hfirst : (UInt8.ofNat (n / 0x40 % 0x20 + 0xC0)).toNat = n / 0x40 % 0x20 + 0xC0 :=
      UInt8.toNat_ofNat_of_lt' (show _ < 0x100 by omega)
    refine .two (by omega) (by omega) (isContinuation_ofNat n) ?_
    rw [hfirst, payload_ofNat]
    omega
  by_cases h₃ : n ≤ 0xFFFF
  · rw [if_neg h₁, if_neg h₂, if_pos h₃]
    have hfirst : (UInt8.ofNat (n / 0x1000 % 0x10 + 0xE0)).toNat = n / 0x1000 % 0x10 + 0xE0 :=
      UInt8.toNat_ofNat_of_lt' (show _ < 0x100 by omega)
    have hsecond : (UInt8.ofNat (n / 0x40 % 0x40 + 0x80)).toNat = n / 0x40 % 0x40 + 0x80 :=
      UInt8.toNat_ofNat_of_lt' (show _ < 0x100 by omega)
    refine .three (by omega) (by omega) (secondByteFits_iff.2 ⟨isContinuation_ofNat (n / 0x40),
      by omega, by omega, by omega, by omega⟩) (isContinuation_ofNat n) ?_
    rw [hfirst, payload_ofNat, payload_ofNat]
    omega
  · rw [if_neg h₁, if_neg h₂, if_neg h₃]
    have hfirst : (UInt8.ofNat (n / 0x40000 % 8 + 0xF0)).toNat = n / 0x40000 % 8 + 0xF0 :=
      UInt8.toNat_ofNat_of_lt' (show _ < 0x100 by omega)
    have hsecond : (UInt8.ofNat (n / 0x1000 % 0x40 + 0x80)).toNat = n / 0x1000 % 0x40 + 0x80 :=
      UInt8.toNat_ofNat_of_lt' (show _ < 0x100 by omega)
    refine .four (by omega) (by omega) (secondByteFits_iff.2 ⟨isContinuation_ofNat (n / 0x1000),
      by omega, by omega, by omega, by omega⟩) (isContinuation_ofNat (n / 0x40))
      (isContinuation_ofNat n) ?_
    rw [hfirst, payload_ofNat, payload_ofNat, payload_ofNat]
    omega

theorem Carries.decodeFirst_append {tail : List UInt8} {n : Nat} (h : Carries (b :: tail) n)
    (later : List UInt8) :
    decodeFirst b (tail ++ later) = .ok (Char.ofNat n, tail.length + 1) := by
  cases h with
  | one hb => simp [decodeFirst, UInt8.lt_iff_toNat_lt, hb]
  | two hb hb' hc hn =>
    have h₁ : ¬b.toNat < 0x80 := by omega
    have h₂ : ¬b.toNat < 0xC2 := by omega
    simp [decodeFirst, UInt8.lt_iff_toNat_lt, h₁, h₂, hb', hc, hn]
  | three hb hb' hc hd hn =>
    have h₁ : ¬b.toNat < 0x80 := by omega
    have h₂ : ¬b.toNat < 0xC2 := by omega
    have h₃ : ¬b.toNat < 0xE0 := by omega
    simp [decodeFirst, UInt8.lt_iff_toNat_lt, h₁, h₂, h₃, hb', hc, hd, hn]
  | four hb hb' hc hd he hn =>
    have h₁ : ¬b.toNat < 0x80 := by omega
    have h₂ : ¬b.toNat < 0xC2 := by omega
    have h₃ : ¬b.toNat < 0xE0 := by omega
    have h₄ : ¬b.toNat < 0xF0 := by omega
    simp [decodeFirst, UInt8.lt_iff_toNat_lt, h₁, h₂, h₃, h₄, hb', hc, hd, he, hn]

theorem carries_of_decodeFirst {rest : List UInt8} {a : Char} {width : Nat}
    (h : decodeFirst b rest = .ok (a, width)) :
    ∃ tail later n, Carries (b :: tail) n ∧ rest = tail ++ later ∧ a = Char.ofNat n ∧
      width = tail.length + 1 := by
  revert h
  fun_cases decodeFirst b rest with
  | case1 rest hb =>
    rintro ⟨⟩
    exact ⟨[], rest, _, .one (UInt8.lt_iff_toNat_lt.1 hb), rfl, rfl, rfl⟩
  | case4 _ hb hb' c later hc =>
    rintro ⟨⟩
    simp only [UInt8.lt_iff_toNat_lt, UInt8.reduceToNat, Nat.not_lt] at hb hb'
    exact ⟨[c], later, _, .two hb hb' hc rfl, rfl, rfl, rfl⟩
  | case9 _ _ hb hb' c hc d later hd =>
    rintro ⟨⟩
    simp only [UInt8.lt_iff_toNat_lt, UInt8.reduceToNat, Nat.not_lt] at hb hb'
    exact ⟨[c, d], later, _, .three hb hb' (by simpa using hc) hd rfl, rfl, rfl, rfl⟩
  | case16 _ _ _ hb hb' c hc d hd e later he =>
    rintro ⟨⟩
    simp only [UInt8.lt_iff_toNat_lt, UInt8.reduceToNat, Nat.not_lt] at hb hb'
    exact ⟨[c, d, e], later, _, .four hb hb' (by simpa using hc) (by simpa using hd) he rfl, rfl,
      rfl, rfl⟩
  | _ => rintro ⟨⟩

/-- The reader finds the character whose bytes stand at the front. -/
theorem decodeFirst_eq_ok_iff {rest : List UInt8} {a : Char} {width : Nat} :
    decodeFirst b rest = .ok (a, width) ↔ ∃ tail later, String.utf8EncodeChar a = b :: tail ∧
      rest = tail ++ later ∧ width = tail.length + 1 := by
  constructor
  · intro h
    obtain ⟨tail, later, n, hcarries, hrest, rfl, hwidth⟩ := carries_of_decodeFirst h
    exact ⟨tail, later, hcarries.utf8EncodeChar_eq, hrest, hwidth⟩
  · rintro ⟨tail, later, hbytes, rfl, rfl⟩
    have hcarries := carries_utf8EncodeChar a
    rw [hbytes] at hcarries
    rw [hcarries.decodeFirst_append, Char.ofNat_toNat]

end

/-! ## Texts -/

theorem encode_ofList (cs : List Char) :
    Disk.encode (String.ofList cs) = cs.flatMap String.utf8EncodeChar := by
  rw [Disk.encode, String.toUTF8_eq_toByteArray, String.toByteArray_ofList, List.utf8Encode,
    List.toList_data_toByteArray]

/-- The bytes of a character that was read already are passed over. -/
theorem decodeFrom_append (later : List UInt8) : ∀ (tail : List UInt8) (position : Nat),
    decodeFrom position tail.length (tail ++ later) =
      decodeFrom (position + tail.length) 0 later
  | [], _ => rfl
  | _ :: tail, position => by
    rw [List.cons_append, List.length_cons, decodeFrom, decodeFrom_append later tail]
    exact congrArg (decodeFrom · 0 later) (by omega)

theorem decodeFrom_cons {b : UInt8} {tail later : List UInt8} {a : Char}
    (h : String.utf8EncodeChar a = b :: tail) (position : Nat) :
    decodeFrom position 0 (b :: (tail ++ later)) =
      (a :: ·) <$> decodeFrom (position + 1 + tail.length) 0 later := by
  rw [decodeFrom, decodeFirst_eq_ok_iff.2 ⟨tail, later, h, rfl, rfl⟩]
  exact congrArg ((a :: ·) <$> ·) (decodeFrom_append later tail (position + 1))

theorem decodeFrom_flatMap : ∀ (cs : List Char) (position : Nat),
    decodeFrom position 0 (cs.flatMap String.utf8EncodeChar) = .ok cs
  | [], _ => rfl
  | a :: cs, position => by
    obtain ⟨b, tail, h⟩ := List.exists_cons_of_ne_nil (String.utf8EncodeChar_ne_nil (c := a))
    rw [List.flatMap_cons, h, List.cons_append, decodeFrom_cons h, decodeFrom_flatMap cs]
    rfl

theorem flatMap_of_decodeFrom : ∀ (cs : List Char) {position : Nat} {bytes : List UInt8},
    decodeFrom position 0 bytes = .ok cs → bytes = cs.flatMap String.utf8EncodeChar
  | cs, position, [], h => by
    obtain rfl : [] = cs := Except.ok.inj h
    rfl
  | cs, position, b :: rest, h => by
    rw [decodeFrom] at h
    split at h
    · cases h
    · next a width hfirst =>
      obtain ⟨cs, hrest, rfl⟩ := map_eq_ok h
      obtain ⟨tail, later, hbytes, rfl, rfl⟩ := decodeFirst_eq_ok_iff.1 hfirst
      rw [Nat.add_sub_cancel, decodeFrom_append] at hrest
      rw [List.flatMap_cons, hbytes, List.cons_append, ← flatMap_of_decodeFrom cs hrest]

/-- Bytes are read as the text whose bytes they are. -/
theorem decode_eq_ok_iff {bytes : List UInt8} {text : String} :
    decode bytes = .ok text ↔ bytes = Disk.encode text := by
  obtain ⟨cs, rfl⟩ : ∃ cs, String.ofList cs = text := ⟨_, String.ofList_toList⟩
  rw [encode_ofList]
  constructor
  · intro h
    obtain ⟨found, hfound, heq⟩ := map_eq_ok h
    obtain rfl := String.ofList_inj.1 heq
    exact flatMap_of_decodeFrom found hfound
  · rintro rfl
    rw [decode, decodeFrom_flatMap]
    rfl

/-- A file is read as a text with its line ends made uniform. -/
theorem readText_eq_ok_iff {bytes : List UInt8} {text : String} :
    readText bytes = .ok text ↔ ∃ written, bytes = Disk.encode written ∧
      text = String.ofList (joinLineEnds written.toList) := by
  constructor
  · intro h
    obtain ⟨written, hwritten, rfl⟩ := map_eq_ok h
    exact ⟨written, decode_eq_ok_iff.1 hwritten, rfl⟩
  · rintro ⟨written, hbytes, rfl⟩
    rw [readText, decode_eq_ok_iff.2 hbytes]
    rfl

end PageCompiler.Text
