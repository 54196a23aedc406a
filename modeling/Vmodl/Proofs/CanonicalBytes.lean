import Vmodl.Proofs.Bytes
import Vmodl.Proofs.Transfer

/-!
# One spelling for bytes

The reader of base64 takes no text but the one that the writer makes, blanks at its ends aside. What is
read is therefore written as it was, and bytes that came over the wire survive another round.
-/

namespace Vmodl

namespace Base64

theorem code_of_symbolValue? {b : UInt8} {n : Nat} (h : symbolValue? b = some n) :
    n < 64 ∧ b = code n := by
  have hall : ∀ k < 256, ∀ n ∈ symbolValue? (UInt8.ofNat k), n < 64 ∧ UInt8.ofNat k = code n := by
    decide +kernel
  have hb := hall b.toNat b.toNat_lt n
  rw [UInt8.ofNat_toNat] at hb
  exact hb h

theorem code_of_readSymbol {b : UInt8} {offset n : Nat} (h : readSymbol b offset = .ok n) :
    n < 64 ∧ b = code n := by
  unfold readSymbol at h
  split at h
  · cases h
    exact code_of_symbolValue? ‹_›
  · cases h

variable {w x y z : Nat}

theorem toNat_first (hw : w < 64) (hx : x < 64) :
    (UInt8.ofNat (w * 4 + x / 16)).toNat = w * 4 + x / 16 :=
  UInt8.toNat_ofNat'.trans (Nat.mod_eq_of_lt (by omega))

theorem toNat_second (hy : y < 64) :
    (UInt8.ofNat (x % 16 * 16 + y / 4)).toNat = x % 16 * 16 + y / 4 :=
  UInt8.toNat_ofNat'.trans (Nat.mod_eq_of_lt (by omega))

theorem toNat_third (hz : z < 64) : (UInt8.ofNat (y % 4 * 64 + z)).toNat = y % 4 * 64 + z :=
  UInt8.toNat_ofNat'.trans (Nat.mod_eq_of_lt (by omega))

theorem encoded_of_two_symbols (hw : w < 64) (hx : x < 64) (hzero : x % 16 = 0) :
    encoded [UInt8.ofNat (w * 4 + x / 16)] = [code w, code x, pad, pad] := by
  have hfirst : (w * 4 + x / 16) / 4 = w := by omega
  have hsecond : (w * 4 + x / 16) % 4 * 16 + (0 : UInt8).toNat / 16 = x := by
    rw [UInt8.toNat_zero]
    omega
  rw [encoded_one, toNat_first hw hx, hfirst, hsecond]

theorem encoded_of_three_symbols (hw : w < 64) (hx : x < 64) (hy : y < 64) (hzero : y % 4 = 0) :
    encoded [UInt8.ofNat (w * 4 + x / 16), UInt8.ofNat (x % 16 * 16 + y / 4)] =
      [code w, code x, code y, pad] := by
  have hfirst : (w * 4 + x / 16) / 4 = w := by omega
  have hsecond : (w * 4 + x / 16) % 4 * 16 + (x % 16 * 16 + y / 4) / 16 = x := by omega
  have hthird : (x % 16 * 16 + y / 4) % 16 * 4 + (0 : UInt8).toNat / 64 = y := by
    rw [UInt8.toNat_zero]
    omega
  rw [encoded_two, toNat_first hw hx, toNat_second hy, hfirst, hsecond, hthird]

theorem encoded_of_four_symbols (hw : w < 64) (hx : x < 64) (hy : y < 64) (hz : z < 64)
    (rest : List UInt8) :
    encoded (UInt8.ofNat (w * 4 + x / 16) :: UInt8.ofNat (x % 16 * 16 + y / 4) ::
      UInt8.ofNat (y % 4 * 64 + z) :: rest) = code w :: code x :: code y :: code z :: encoded rest := by
  have hfirst : (w * 4 + x / 16) / 4 = w := by omega
  have hsecond : (w * 4 + x / 16) % 4 * 16 + (x % 16 * 16 + y / 4) / 16 = x := by omega
  have hthird : (x % 16 * 16 + y / 4) % 16 * 4 + (y % 4 * 64 + z) / 64 = y := by omega
  have hfourth : (y % 4 * 64 + z) % 64 = z := by omega
  rw [encoded_three, toNat_first hw hx, toNat_second hy, toNat_third hz, hfirst, hsecond, hthird,
    hfourth]

variable {start : Nat} {bytes : List UInt8}

/-- The last group consists of symbols and then of padding, and nothing but padding follows a pad. -/
theorem symbols_of_readLast {values read : List Nat} {padAt : Option Nat} {group : List UInt8}
    (h : readLast start values padAt group = .ok read) :
    ∃ symbols pads, read = values ++ symbols ∧ (∀ n ∈ symbols, n < 64) ∧
      group = symbols.map code ++ List.replicate pads pad ∧ (padAt ≠ none → symbols = []) := by
  induction group generalizing values padAt with
  | nil =>
      cases h
      exact ⟨[], 0, (List.append_nil _).symm, nofun, rfl, fun _ => rfl⟩
  | cons b rest ih =>
      unfold readLast at h
      split at h
      · rename_i hpad
        split at h
        · cases h
        · obtain ⟨symbols, pads, hread, _, hrest, hnone⟩ := ih h
          obtain rfl := hnone (Option.some_ne_none _)
          exact ⟨[], pads + 1, hread, nofun, by rw [hpad, hrest]; rfl, fun _ => rfl⟩
      · cases padAt with
        | some p => cases h
        | none =>
            obtain ⟨n, hn, hread⟩ := Outcome.bind_eq_ok_iff.mp h
            obtain ⟨hlt, rfl⟩ := code_of_readSymbol hn
            obtain ⟨symbols, pads, rfl, hsymbols, rfl, _⟩ := ih hread
            refine ⟨n :: symbols, pads, by simp, ?_, rfl, fun hne => absurd rfl hne⟩
            exact List.forall_mem_cons.mpr ⟨hlt, hsymbols⟩

theorem eq_encoded_of_decodeLast {group : List UInt8} (hlength : group.length ≤ 4)
    (h : decodeLast start group = .ok bytes) : group = encoded bytes := by
  obtain ⟨values, hvalues, h⟩ := Outcome.bind_eq_ok_iff.mp h
  obtain ⟨symbols, pads, hread, hsymbols, hgroup, _⟩ := symbols_of_readLast hvalues
  obtain rfl : values = symbols := hread
  have hpads : values.length + pads = group.length := by
    simp [hgroup]
  dsimp only at h
  split at h
  · rename_i w x
    split at h
    · cases h
    · rename_i hfour
      split at h
      · cases h
      · rename_i hzero
        cases h
        obtain rfl : pads = 2 := by
          simp only [List.length_cons, List.length_nil] at hpads
          omega
        simp only [List.mem_cons, List.not_mem_nil, or_false, forall_eq_or_imp, forall_eq] at hsymbols
        rw [hgroup, encoded_of_two_symbols hsymbols.1 hsymbols.2 (not_not.mp hzero)]
        rfl
  · rename_i w x y
    split at h
    · cases h
    · rename_i hfour
      split at h
      · cases h
      · rename_i hzero
        cases h
        obtain rfl : pads = 1 := by
          simp only [List.length_cons, List.length_nil] at hpads
          omega
        simp only [List.mem_cons, List.not_mem_nil, or_false, forall_eq_or_imp, forall_eq] at hsymbols
        rw [hgroup, encoded_of_three_symbols hsymbols.1 hsymbols.2.1 hsymbols.2.2 (not_not.mp hzero)]
        rfl
  · rename_i w x y z
    cases h
    obtain rfl : pads = 0 := by
      simp only [List.length_cons, List.length_nil] at hpads
      omega
    simp only [List.mem_cons, List.not_mem_nil, or_false, forall_eq_or_imp, forall_eq] at hsymbols
    rw [hgroup, encoded_of_four_symbols hsymbols.1 hsymbols.2.1 hsymbols.2.2.1 hsymbols.2.2.2]
    rfl
  · split at h
    · rename_i hempty
      cases h
      exact List.isEmpty_iff.mp hempty
    · cases h

theorem eq_encoded_of_decodeFrom {group : List UInt8} (h : decodeFrom start group = .ok bytes) :
    group = encoded bytes := by
  induction start, group using decodeFrom.induct generalizing bytes with
  | case1 start a b c d e rest ih =>
      simp only [decodeFrom, Outcome.bind_eq_ok_iff, Outcome.pure_eq_ok_iff] at h
      obtain ⟨w, ha, x, hb, y, hc, z, hd, later, hlater, rfl⟩ := h
      obtain ⟨hw, rfl⟩ := code_of_readSymbol ha
      obtain ⟨hx, rfl⟩ := code_of_readSymbol hb
      obtain ⟨hy, rfl⟩ := code_of_readSymbol hc
      obtain ⟨hz, rfl⟩ := code_of_readSymbol hd
      rw [encoded_of_four_symbols hw hx hy hz, ← ih hlater]
  | case2 start group hshort =>
      rw [decodeFrom] at h
      · refine eq_encoded_of_decodeLast ?_ h
        rcases group with _ | ⟨a, _ | ⟨b, _ | ⟨c, _ | ⟨d, _ | ⟨e, rest⟩⟩⟩⟩⟩
        case cons.cons.cons.cons.cons => exact (hshort a b c d e rest rfl).elim
        all_goals simp
      · exact hshort

/-! ### Texts -/

theorem decodeBytes_eq_ok_iff {s : List UInt8} : decodeBytes s = .ok bytes ↔ s = encoded bytes := by
  constructor
  · intro h
    unfold decodeBytes at h
    split at h
    · cases h
    · exact eq_encoded_of_decodeFrom h
  · rintro rfl
    exact decodeBytes_encoded bytes

theorem eq_of_flatMap_utf8EncodeChar {s t : List Char}
    (h : s.flatMap String.utf8EncodeChar = t.flatMap String.utf8EncodeChar) : s = t := by
  have hbytes : s.utf8Encode = t.utf8Encode := congrArg List.toByteArray h
  rw [← String.toByteArray_ofList, ← String.toByteArray_ofList] at hbytes
  exact String.ofList_inj.mp (String.toByteArray_inj.mp hbytes)

/-- A text stands for some bytes exactly if it is their text with blanks around it. -/
theorem decode_eq_ok_iff {text : String} : decode text = .ok bytes ↔ Text.trim text = encode bytes := by
  rw [decode, decodeBytes_eq_ok_iff, encoded, Text.trim, encode, String.ofList_inj]
  exact ⟨eq_of_flatMap_utf8EncodeChar, congrArg _⟩

end Base64

namespace Wire

variable {r : Registry}

theorem stripArray_binaryKey : stripArray binaryKey = binaryKey := by decide +kernel

theorem decode_binaryKey_of_single {raw : Json} (hraw : Single raw) :
    decode r binaryKey raw = decodeBinary binaryKey raw := by
  have hreading : reading r (stripArray binaryKey) = .binary :=
    reading_eq_binary_iff.mpr stripArray_binaryKey
  rw [decode_of_binary (by decide) hraw hreading, stripArray_binaryKey]

theorem readBytes_encode (bytes : List UInt8) : readBytes (Base64.encode bytes) = .ok bytes := by
  rw [readBytes, Base64.decode_encode]
  rfl

theorem decode_toJson_binary (r : Registry) (bytes : List UInt8) :
    decode r binaryKey (Decoded.binary bytes).toJson = .ok (.binary bytes) := by
  rw [Decoded.toJson, decode_binaryKey_of_single (by simp [Single]), decodeBinary_eq_ok_iff]
  exact ⟨Base64.encode bytes, bytes, unwrap_of_not_object (by simp), readBytes_encode bytes, rfl⟩

theorem decode_toJson_of_single {raw : Json} (hraw : Single raw) {d : Decoded}
    (h : decode r binaryKey raw = .ok d) : decode r binaryKey d.toJson = .ok d := by
  rw [decode_binaryKey_of_single hraw] at h
  obtain ⟨text, bytes, _, _, rfl⟩ := decodeBinary_eq_ok_iff.mp h
  exact decode_toJson_binary r bytes

/-- Bytes that were decoded are decoded again from what is written for them, in lists of any depth. -/
theorem decode_toJson_of_decode {raw : Json} {d : Decoded} (h : decode r binaryKey raw = .ok d) :
    decode r binaryKey d.toJson = .ok d := by
  induction raw using Json.nestedInduction generalizing d with
  | null =>
      cases h
      rfl
  | array items ih =>
      obtain ⟨ds, hds, rfl⟩ := (decode_array_eq_ok_iff (by decide)).mp h
      rw [Decoded.toJson, Decoded.toJsonItems_eq, decode_array_eq_ok_iff (by decide)]
      rw [stripArray_binaryKey] at hds ⊢
      refine ⟨ds, List.forall₂_map_left_iff.mpr (List.forall₂_same.mpr ?_), rfl⟩
      intro d hd
      obtain ⟨n, hn, rfl⟩ := List.getElem_of_mem hd
      have hitem := hds.get (hds.length_eq ▸ hn) hn
      exact ih _ (List.get_mem ..) hitem
  | bool b => exact decode_toJson_of_single (by simp [Single]) h
  | number n => exact decode_toJson_of_single (by simp [Single]) h
  | string text => exact decode_toJson_of_single (by simp [Single]) h
  | object members => exact decode_toJson_of_single (by simp [Single]) h

end Wire

namespace Client

variable {c : Client} {r : Registry}

theorem exists_bytes_of_read_binary {d : Wire.Decoded} {v : Value}
    (h : c.read d (.primitive .binary) = .ok v) : ∃ bytes, v = .binary bytes := by
  rw [read_primitive] at h
  change Primitive.readBinary d = .ok v at h
  unfold Primitive.readBinary at h
  split at h
  · cases h
    exact ⟨_, rfl⟩
  · obtain ⟨bytes, _, rfl⟩ := Outcome.map_eq_ok_iff.mp h
    exact ⟨bytes, rfl⟩
  · cases h
  · cases h

theorem reconstruct_toJson_binary (c : Client) (r : Registry) (bytes : List UInt8) :
    c.reconstruct r Wire.binaryKey ((Value.binary bytes).toJson c) (.primitive .binary) =
      .ok (.binary bytes) := by
  have hdecode : Wire.decode r Wire.binaryKey ((Value.binary bytes).toJson c) = .ok (.binary bytes) :=
    Wire.decode_toJson_binary r bytes
  rw [reconstruct, hdecode]
  rfl

end Client

namespace Wire

/-- Bytes come back from their text, no other text stands for them but for blanks around it, and what
was read is read again after it was written, before and after it was given a type. -/
theorem bytes_canonical :
    (∀ bytes, readBytes (Base64.encode bytes) = .ok bytes) ∧
      (∀ text bytes, readBytes text = .ok bytes ↔ Text.trim text = Base64.encode bytes) ∧
      (∀ (r : Registry) (raw : Json) (d : Decoded), decode r binaryKey raw = .ok d →
        decode r binaryKey d.toJson = .ok d) ∧
      ∀ (c : Client) (r : Registry) (key : String) (raw : Json) (v : Value),
        c.reconstruct r key raw (.primitive .binary) = .ok v →
          c.reconstruct r binaryKey (v.toJson c) (.primitive .binary) = .ok v := by
  refine ⟨readBytes_encode, fun text bytes => ?_, fun _ _ _ => decode_toJson_of_decode, ?_⟩
  · rw [readBytes, Outcome.mapError_eq_ok_iff, Base64.decode_eq_ok_iff]
  · intro c r key raw v h
    obtain ⟨d, _, hread⟩ := Outcome.bind_eq_ok_iff.mp h
    obtain ⟨bytes, rfl⟩ := Client.exists_bytes_of_read_binary hread
    exact Client.reconstruct_toJson_binary c r bytes

end Wire

end Vmodl
