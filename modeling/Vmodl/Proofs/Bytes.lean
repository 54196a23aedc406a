import Vmodl.Base64

/-!
# Bytes as text

A text in base64 is read group by group. Each group of four symbols gives back the three bytes that it
was made of, and the padding of the last group tells how many there are.
-/

namespace Vmodl.Base64

/-- The byte of a symbol in a text. -/
def code (n : Nat) : UInt8 := UInt8.ofNat (symbol n).toNat

theorem utf8_symbol : ∀ n < 64, String.utf8EncodeChar (symbol n) = [code n] := by decide +kernel

theorem symbolValue?_code : ∀ n < 64, symbolValue? (code n) = some n := by decide +kernel

theorem code_ne_pad : ∀ n < 64, code n ≠ pad := by decide +kernel

theorem not_isBlank_symbol : ∀ n < 64, Text.isBlank (symbol n) = false := by decide +kernel

theorem readSymbol_code {n : Nat} (hn : n < 64) (offset : Nat) :
    readSymbol (code n) offset = .ok n := by
  rw [readSymbol, symbolValue?_code n hn]

variable {start w x y z : Nat}

theorem readLast_code {values : List Nat} {rest : List UInt8} (hx : x < 64) :
    readLast start values none (code x :: rest) = readLast start (values ++ [x]) none rest := by
  rw [readLast, if_neg (code_ne_pad x hx), readSymbol_code hx]
  rfl

theorem decodeLast_one (hw : w < 64) (hx : x < 64) (hzero : x % 16 = 0) :
    decodeLast start [code w, code x, pad, pad] = .ok [UInt8.ofNat (w * 4 + x / 16)] := by
  have hvalues : readLast start [] none [code w, code x, pad, pad] = .ok [w, x] := by
    rw [readLast_code hw, readLast_code hx]
    rfl
  rw [decodeLast, hvalues]
  simp [bind, Except.bind, hzero]

theorem decodeLast_two (hw : w < 64) (hx : x < 64) (hy : y < 64) (hzero : y % 4 = 0) :
    decodeLast start [code w, code x, code y, pad] =
      .ok [UInt8.ofNat (w * 4 + x / 16), UInt8.ofNat (x % 16 * 16 + y / 4)] := by
  have hvalues : readLast start [] none [code w, code x, code y, pad] = .ok [w, x, y] := by
    rw [readLast_code hw, readLast_code hx, readLast_code hy]
    rfl
  rw [decodeLast, hvalues]
  simp [bind, Except.bind, hzero]

theorem decodeLast_three (hw : w < 64) (hx : x < 64) (hy : y < 64) (hz : z < 64) :
    decodeLast start [code w, code x, code y, code z] =
      .ok [UInt8.ofNat (w * 4 + x / 16), UInt8.ofNat (x % 16 * 16 + y / 4),
        UInt8.ofNat (y % 4 * 64 + z)] := by
  have hvalues : readLast start [] none [code w, code x, code y, code z] = .ok [w, x, y, z] := by
    rw [readLast_code hw, readLast_code hx, readLast_code hy, readLast_code hz]
    rfl
  rw [decodeLast, hvalues]
  rfl

theorem decodeFrom_four (a b c d : UInt8) :
    decodeFrom start [a, b, c, d] = decodeLast start [a, b, c, d] := rfl

theorem decodeFrom_group {rest : List UInt8} (hw : w < 64) (hx : x < 64) (hy : y < 64) (hz : z < 64)
    (hrest : rest ≠ []) :
    decodeFrom start (code w :: code x :: code y :: code z :: rest) =
      (decodeFrom (start + 4) rest).map fun bytes =>
        UInt8.ofNat (w * 4 + x / 16) :: UInt8.ofNat (x % 16 * 16 + y / 4) ::
          UInt8.ofNat (y % 4 * 64 + z) :: bytes := by
  obtain ⟨e, rest, rfl⟩ := List.exists_cons_of_ne_nil hrest
  rw [decodeFrom, readSymbol_code hw, readSymbol_code hx, readSymbol_code hy, readSymbol_code hz]
  rfl

/-! ### Bytes -/

/-- The bytes of the text that stands for some bytes. -/
def encoded (bytes : List UInt8) : List UInt8 := (encodeBytes bytes).flatMap String.utf8EncodeChar

theorem sextets_lt (a b c : UInt8) :
    a.toNat / 4 < 64 ∧ a.toNat % 4 * 16 + b.toNat / 16 < 64 ∧
      b.toNat % 16 * 4 + c.toNat / 64 < 64 ∧ c.toNat % 64 < 64 := by
  have ha := a.toNat_lt
  have hb := b.toNat_lt
  have hc := c.toNat_lt
  omega

theorem ofNat_eq {n : Nat} {a : UInt8} (h : n = a.toNat) : UInt8.ofNat n = a := by
  rw [h, UInt8.ofNat_toNat]

theorem first_of_sextets (a b : UInt8) :
    UInt8.ofNat (a.toNat / 4 * 4 + (a.toNat % 4 * 16 + b.toNat / 16) / 16) = a := by
  have hb := b.toNat_lt
  exact ofNat_eq (by omega)

theorem second_of_sextets (a b c : UInt8) :
    UInt8.ofNat ((a.toNat % 4 * 16 + b.toNat / 16) % 16 * 16 +
      (b.toNat % 16 * 4 + c.toNat / 64) / 4) = b := by
  have hb := b.toNat_lt
  have hc := c.toNat_lt
  exact ofNat_eq (by omega)

theorem third_of_sextets (b c : UInt8) :
    UInt8.ofNat ((b.toNat % 16 * 4 + c.toNat / 64) % 4 * 64 + c.toNat % 64) = c := by
  have hc := c.toNat_lt
  exact ofNat_eq (by omega)

theorem encoded_one (a : UInt8) : encoded [a] =
    [code (a.toNat / 4), code (a.toNat % 4 * 16 + (0 : UInt8).toNat / 16), pad, pad] := by
  obtain ⟨ha, hpad, -⟩ := sextets_lt a 0 0
  show [symbol (a.toNat / 4), symbol (a.toNat % 4 * 16 + (0 : UInt8).toNat / 16), '=', '='].flatMap
    String.utf8EncodeChar = _
  simp only [List.flatMap_cons, utf8_symbol _ ha, utf8_symbol _ hpad]
  rfl

theorem encoded_two (a b : UInt8) : encoded [a, b] =
    [code (a.toNat / 4), code (a.toNat % 4 * 16 + b.toNat / 16),
      code (b.toNat % 16 * 4 + (0 : UInt8).toNat / 64), pad] := by
  obtain ⟨ha, hab, hpad, -⟩ := sextets_lt a b 0
  show [symbol (a.toNat / 4), symbol (a.toNat % 4 * 16 + b.toNat / 16),
    symbol (b.toNat % 16 * 4 + (0 : UInt8).toNat / 64), '='].flatMap String.utf8EncodeChar = _
  simp only [List.flatMap_cons, utf8_symbol _ ha, utf8_symbol _ hab, utf8_symbol _ hpad]
  rfl

theorem encoded_three (a b c : UInt8) (rest : List UInt8) :
    encoded (a :: b :: c :: rest) =
      code (a.toNat / 4) :: code (a.toNat % 4 * 16 + b.toNat / 16) ::
        code (b.toNat % 16 * 4 + c.toNat / 64) :: code (c.toNat % 64) :: encoded rest := by
  obtain ⟨ha, hab, hbc, hc⟩ := sextets_lt a b c
  simp only [encoded, encodeBytes, List.flatMap_cons, utf8_symbol _ ha, utf8_symbol _ hab,
    utf8_symbol _ hbc, utf8_symbol _ hc, List.singleton_append]

theorem length_encoded (bytes : List UInt8) : (encoded bytes).length % 4 = 0 := by
  induction bytes using encodeBytes.induct with
  | case1 => rfl
  | case2 a => simp [encoded_one]
  | case3 a b => simp [encoded_two]
  | case4 a b c rest ih =>
      rw [encoded_three]
      simp only [List.length_cons]
      omega

theorem encoded_ne_nil {bytes : List UInt8} (h : bytes ≠ []) : encoded bytes ≠ [] := by
  cases bytes using encodeBytes.induct with
  | case1 => exact absurd rfl h
  | case2 a => simp [encoded_one]
  | case3 a b => simp [encoded_two]
  | case4 a b c rest => simp [encoded_three]

theorem decodeFrom_encoded (bytes : List UInt8) (start : Nat) :
    decodeFrom start (encoded bytes) = .ok bytes := by
  induction bytes using encodeBytes.induct generalizing start with
  | case1 => rfl
  | case2 a =>
      obtain ⟨ha, hab, -⟩ := sextets_lt a 0 0
      have hzero : (a.toNat % 4 * 16 + (0 : UInt8).toNat / 16) % 16 = 0 := by simp
      rw [encoded_one, decodeFrom_four, decodeLast_one ha hab hzero, first_of_sextets]
  | case3 a b =>
      obtain ⟨ha, hab, hbc, -⟩ := sextets_lt a b 0
      have hzero : (b.toNat % 16 * 4 + (0 : UInt8).toNat / 64) % 4 = 0 := by simp
      rw [encoded_two, decodeFrom_four, decodeLast_two ha hab hbc hzero, first_of_sextets,
        second_of_sextets]
  | case4 a b c rest ih =>
      obtain ⟨ha, hab, hbc, hc⟩ := sextets_lt a b c
      rw [encoded_three]
      by_cases hrest : rest = []
      · subst hrest
        rw [encoded, encodeBytes, List.flatMap_nil, decodeFrom_four, decodeLast_three ha hab hbc hc,
          first_of_sextets, second_of_sextets, third_of_sextets]
      · rw [decodeFrom_group ha hab hbc hc (encoded_ne_nil hrest), ih, first_of_sextets,
          second_of_sextets, third_of_sextets]
        rfl

theorem not_isBlank_of_mem_encodeBytes (bytes : List UInt8) :
    ∀ c ∈ encodeBytes bytes, Text.isBlank c = false := by
  induction bytes using encodeBytes.induct with
  | case1 => exact nofun
  | case2 a =>
      obtain ⟨ha, hab, -⟩ := sextets_lt a 0 0
      simp only [encodeBytes, List.forall_mem_cons]
      exact ⟨not_isBlank_symbol _ ha, not_isBlank_symbol _ hab, rfl, rfl, nofun⟩
  | case3 a b =>
      obtain ⟨ha, hab, hbc, -⟩ := sextets_lt a b 0
      simp only [encodeBytes, List.forall_mem_cons]
      exact ⟨not_isBlank_symbol _ ha, not_isBlank_symbol _ hab, not_isBlank_symbol _ hbc, rfl, nofun⟩
  | case4 a b c rest ih =>
      obtain ⟨ha, hab, hbc, hc⟩ := sextets_lt a b c
      simp only [encodeBytes, List.forall_mem_cons]
      exact ⟨not_isBlank_symbol _ ha, not_isBlank_symbol _ hab, not_isBlank_symbol _ hbc,
        not_isBlank_symbol _ hc, ih⟩

theorem loneEnd?_encoded (bytes : List UInt8) : loneEnd? (encoded bytes) = none := by
  have hlength := length_encoded bytes
  unfold loneEnd?
  split
  · exact if_neg (by omega)
  · rfl

theorem decodeBytes_encoded (bytes : List UInt8) : decodeBytes (encoded bytes) = .ok bytes := by
  rw [decodeBytes, loneEnd?_encoded]
  exact decodeFrom_encoded bytes 0

/-- Bytes come back from their text. -/
theorem decode_encode (bytes : List UInt8) : decode (encode bytes) = .ok bytes := by
  rw [decode, encode, String.toList_ofList,
    Text.trimChars_eq_self (not_isBlank_of_mem_encodeBytes bytes)]
  exact decodeBytes_encoded bytes

end Vmodl.Base64
