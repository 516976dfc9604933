import ApiBridge.Proofs.Outcome
import ApiBridge.Text.Utf8

/-!
# Texts and their bytes

Bytes are decoded to a text exactly when they are its encoding: every text is read back from its
bytes, and bytes that encode no text are refused.
-/

namespace ApiBridge.Text

/-! ### Bytes of characters -/

/-- The bytes from a place on are listed behind those that are listed already. -/
lemma loop_eq_append (bs : ByteArray) {i n : Nat} (hn : bs.size = i + n) (done : List UInt8) :
    ByteArray.toList.loop bs i done = done.reverse ++ bs.data.toList.drop i := by
  have length : bs.data.toList.length = i + n := hn
  induction n generalizing i done with
  | zero =>
    rw [ByteArray.toList.loop, if_neg (by omega), List.drop_of_length_le (by omega),
      List.append_nil]
  | succ n ih =>
    have hi : i < bs.data.toList.length := by omega
    have byte : bs.get! i = bs.data.toList[i] := by
      rw [ByteArray.get!, getElem!_pos bs.data i hi, Array.getElem_toList]
    rw [ByteArray.toList.loop, if_pos (by omega), ih (by omega) _ (by omega),
      List.drop_eq_getElem_cons hi, byte, List.reverse_cons, List.append_assoc,
      List.singleton_append]

/-- The bytes of a text are those of its characters, one after another. -/
lemma encode_ofList (cs : List Char) :
    encode (String.ofList cs) = cs.flatMap String.utf8EncodeChar := by
  rw [encode, ByteArray.toList, loop_eq_append _ (Nat.zero_add _).symm, String.toUTF8,
    String.toByteArray_ofList, List.utf8Encode, List.toList_data_toByteArray]
  rfl

lemma mayFollow_eq_true_iff {first b : UInt8} {index : Nat} : mayFollow first index b = true ↔
    128 ≤ b.toNat ∧ b.toNat ≤ 191 ∧ (index ≠ 0 ∨
      (first.toNat ≠ 224 ∨ 160 ≤ b.toNat) ∧ (first.toNat ≠ 240 ∨ 144 ≤ b.toNat) ∧
      (first.toNat ≠ 237 ∨ b.toNat ≤ 159) ∧ (first.toNat ≠ 244 ∨ b.toNat ≤ 143)) := by
  simp only [mayFollow, Bool.and_eq_true, decide_eq_true_eq, UInt8.le_iff_toNat_le,
    ← UInt8.toNat_inj]
  split_ifs <;> simp_all <;> omega

lemma followers?_eq_some_iff {b : UInt8} {n : Nat} : followers? b = some n ↔
    n = 1 ∧ 194 ≤ b.toNat ∧ b.toNat ≤ 223 ∨ n = 2 ∧ 224 ≤ b.toNat ∧ b.toNat ≤ 239 ∨
      n = 3 ∧ 240 ≤ b.toNat ∧ b.toNat ≤ 244 := by
  simp only [followers?, Bool.and_eq_true, decide_eq_true_eq, UInt8.le_iff_toNat_le]
  split_ifs <;> simp_all <;> omega

/-! ### Characters of bytes -/

lemma goodFollowers_cons_iff {first b : UInt8} {bs : List UInt8} {index n : Nat} :
    goodFollowers first index (b :: bs) = n + 1 ↔
      mayFollow first index b = true ∧ goodFollowers first (index + 1) bs = n := by
  rw [goodFollowers]
  split
  case isTrue h => simp [h]
  case isFalse h => simp [h]

/-- The bytes of a longer character are a first byte and the bytes that have to follow it. -/
lemma utf8EncodeChar_of_le {c : Char} (hc : 128 ≤ c.val.toNat) : ∃ b fs n,
    String.utf8EncodeChar c = b :: fs ∧ followers? b = some n ∧ fs.length = n ∧
      goodFollowers b 0 fs = n ∧ addFollowers (leadBits b n) fs = c.val.toNat := by
  have valid : c.val.toNat.isValidChar := c.valid
  unfold String.utf8EncodeChar
  generalize c.val.toNat = v at hc valid
  have small : ¬v ≤ 127 := by omega
  dsimp only
  rw [if_neg small]
  have byte (n : Nat) : (UInt8.ofNat n).toNat = n % 256 := rfl
  split_ifs with h₂ h₃
  · have good : mayFollow (UInt8.ofNat (v / 64 % 32 + 192)) 0 (UInt8.ofNat (v % 64 + 128)) := by
      rw [mayFollow_eq_true_iff, byte, byte]
      omega
    have lead (b : UInt8) : leadBits b 1 = b.toNat % 32 := rfl
    refine ⟨_, _, 1, rfl, followers?_eq_some_iff.2 ?_, rfl, ?_, ?_⟩
    · rw [byte]
      omega
    · exact goodFollowers_cons_iff.2 ⟨good, rfl⟩
    · simp only [addFollowers, lead, List.foldl_cons, List.foldl_nil, byte]
      omega
  · have good : mayFollow (UInt8.ofNat (v / 4096 % 16 + 224)) 0 (UInt8.ofNat (v / 64 % 64 + 128)) := by
      rw [mayFollow_eq_true_iff, byte, byte]
      omega
    have good' : mayFollow (UInt8.ofNat (v / 4096 % 16 + 224)) 1 (UInt8.ofNat (v % 64 + 128)) := by
      rw [mayFollow_eq_true_iff, byte, byte]
      omega
    have lead (b : UInt8) : leadBits b 2 = b.toNat % 16 := rfl
    refine ⟨_, _, 2, rfl, followers?_eq_some_iff.2 ?_, rfl, ?_, ?_⟩
    · rw [byte]
      omega
    · exact goodFollowers_cons_iff.2 ⟨good, goodFollowers_cons_iff.2 ⟨good', rfl⟩⟩
    · simp only [addFollowers, lead, List.foldl_cons, List.foldl_nil, byte]
      omega
  · have good : mayFollow (UInt8.ofNat (v / 262144 % 8 + 240)) 0
        (UInt8.ofNat (v / 4096 % 64 + 128)) := by
      rw [mayFollow_eq_true_iff, byte, byte]
      omega
    have good' : mayFollow (UInt8.ofNat (v / 262144 % 8 + 240)) 1
        (UInt8.ofNat (v / 64 % 64 + 128)) := by
      rw [mayFollow_eq_true_iff, byte, byte]
      omega
    have good'' : mayFollow (UInt8.ofNat (v / 262144 % 8 + 240)) 2
        (UInt8.ofNat (v % 64 + 128)) := by
      rw [mayFollow_eq_true_iff, byte, byte]
      omega
    have lead (b : UInt8) : leadBits b 3 = b.toNat % 8 := rfl
    refine ⟨_, _, 3, rfl, followers?_eq_some_iff.2 ?_, rfl, ?_, ?_⟩
    · rw [byte]
      omega
    · exact goodFollowers_cons_iff.2
        ⟨good, goodFollowers_cons_iff.2 ⟨good', goodFollowers_cons_iff.2 ⟨good'', rfl⟩⟩⟩
    · simp only [addFollowers, lead, List.foldl_cons, List.foldl_nil, byte]
      omega

lemma val_ofNat {v : Nat} (hv : v.isValidChar) : (Char.ofNat v).val.toNat = v := by
  rw [Char.ofNat, dif_pos hv]
  rfl

/-- A small byte is that of a character. -/
lemma utf8EncodeChar_of_lt {b : UInt8} (h : b < 0x80) :
    String.utf8EncodeChar (Char.ofNat b.toNat) = [b] := by
  have small : b.toNat < 128 := UInt8.lt_iff_toNat_lt.1 h
  rw [String.utf8EncodeChar, val_ofNat (by omega), if_pos (by omega), UInt8.ofNat_toNat]

/-- Bytes that may follow one another are those of a character. -/
lemma utf8EncodeChar_of_followers {b : UInt8} {fs : List UInt8} {n : Nat}
    (hn : followers? b = some n) (hl : fs.length = n) (hg : goodFollowers b 0 fs = n) :
    String.utf8EncodeChar (Char.ofNat (addFollowers (leadBits b n) fs)) = b :: fs := by
  have byte (n : Nat) : (UInt8.ofNat n).toNat = n % 256 := rfl
  unfold String.utf8EncodeChar
  rcases followers?_eq_some_iff.1 hn with ⟨rfl, hb⟩ | ⟨rfl, hb⟩ | ⟨rfl, hb⟩
  · obtain ⟨x, rfl⟩ := List.length_eq_one_iff.1 hl
    simp only [goodFollowers_cons_iff, mayFollow_eq_true_iff] at hg
    have lead : leadBits b 1 = b.toNat % 32 := rfl
    simp only [addFollowers, lead, List.foldl_cons, List.foldl_nil]
    rw [val_ofNat (by omega), if_neg (by omega), if_pos (by omega)]
    simp only [List.cons.injEq, ← UInt8.toNat_inj, byte, and_true]
    omega
  · obtain ⟨x, y, rfl⟩ := List.length_eq_two.1 hl
    simp only [goodFollowers_cons_iff, mayFollow_eq_true_iff] at hg
    obtain ⟨⟨hx, hx', hbx⟩, ⟨hy, hy', -⟩, -⟩ := hg
    obtain ⟨low, -, high, -⟩ := hbx.resolve_left (by simp)
    have lead : leadBits b 2 = b.toNat % 16 := rfl
    simp only [addFollowers, lead, List.foldl_cons, List.foldl_nil]
    have bits : (b.toNat % 16 * 64 + x.toNat % 64) * 64 + y.toNat % 64
        + 4096 * 224 + 64 * 128 + 128 = b.toNat * 4096 + x.toNat * 64 + y.toNat := by omega
    generalize (b.toNat % 16 * 64 + x.toNat % 64) * 64 + y.toNat % 64 = v at bits
    rw [val_ofNat (by omega), if_neg (by omega), if_neg (by omega), if_pos (by omega)]
    simp only [List.cons.injEq, ← UInt8.toNat_inj, byte, and_true]
    omega
  · obtain ⟨x, y, z, rfl⟩ := List.length_eq_three.1 hl
    simp only [goodFollowers_cons_iff, mayFollow_eq_true_iff] at hg
    obtain ⟨⟨hx, hx', hbx⟩, ⟨hy, hy', -⟩, ⟨hz, hz', -⟩, -⟩ := hg
    obtain ⟨-, low, -, high⟩ := hbx.resolve_left (by simp)
    have lead : leadBits b 3 = b.toNat % 8 := rfl
    simp only [addFollowers, lead, List.foldl_cons, List.foldl_nil]
    have bits : ((b.toNat % 8 * 64 + x.toNat % 64) * 64 + y.toNat % 64) * 64 + z.toNat % 64
        + 262144 * 240 + 4096 * 128 + 64 * 128 + 128
          = b.toNat * 262144 + x.toNat * 4096 + y.toNat * 64 + z.toNat := by omega
    generalize ((b.toNat % 8 * 64 + x.toNat % 64) * 64 + y.toNat % 64) * 64 + z.toNat % 64 = v at bits
    rw [val_ofNat (by omega), if_neg (by omega), if_neg (by omega), if_neg (by omega)]
    simp only [List.cons.injEq, ← UInt8.toNat_inj, byte, and_true]
    omega

lemma goodFollowers_le (first : UInt8) (index : Nat) (bs : List UInt8) :
    goodFollowers first index bs ≤ bs.length := by
  induction bs generalizing index with
  | nil => exact Nat.le_refl _
  | cons b bs ih =>
    rw [goodFollowers]
    split
    case isTrue => exact Nat.succ_le_succ (ih (index + 1))
    case isFalse => exact Nat.zero_le _

/-! ### Decoding -/

/-- The bytes of a character in front of others are read as that character. -/
lemma decodeFrom_utf8EncodeChar (c : Char) (offset : Nat) (rest : List UInt8) : ∃ offset',
    decodeFrom offset (String.utf8EncodeChar c ++ rest) = (decodeFrom offset' rest).map (c :: ·) := by
  have same : Char.ofNat c.val.toNat = c := Char.ofNat_toNat c
  by_cases hc : 128 ≤ c.val.toNat
  · obtain ⟨b, fs, n, hbytes, hn, hl, hg, hcode⟩ := utf8EncodeChar_of_le hc
    have long : ¬b < 0x80 := by
      rw [UInt8.lt_iff_toNat_lt]
      have := followers?_eq_some_iff.1 hn
      change ¬b.toNat < 128
      omega
    have taken : (fs ++ rest).take n = fs := by rw [← hl, List.take_left]
    have left : (fs ++ rest).drop n = rest := by rw [← hl, List.drop_left]
    refine ⟨offset + n + 1, ?_⟩
    rw [hbytes, List.cons_append, decodeFrom, if_neg long, hn]
    simp only [taken, left, hg, if_true, hcode, same]
  · have short : String.utf8EncodeChar c = [UInt8.ofNat c.val.toNat] := by
      rw [String.utf8EncodeChar, if_pos (by omega)]
    have value : (UInt8.ofNat c.val.toNat).toNat = c.val.toNat :=
      Nat.mod_eq_of_lt (by omega)
    have low : UInt8.ofNat c.val.toNat < 0x80 := by
      rw [UInt8.lt_iff_toNat_lt, value]
      exact Nat.not_le.1 hc
    refine ⟨offset + 1, ?_⟩
    rw [short, List.singleton_append, decodeFrom, if_pos low, value, same]

lemma decodeFrom_flatMap (cs : List Char) (offset : Nat) :
    decodeFrom offset (cs.flatMap String.utf8EncodeChar) = .ok cs := by
  induction cs generalizing offset with
  | nil => simp [decodeFrom]
  | cons c cs ih =>
    obtain ⟨offset', h⟩ := decodeFrom_utf8EncodeChar c offset (cs.flatMap String.utf8EncodeChar)
    rw [List.flatMap_cons, h, ih]
    rfl

/-- Bytes that are read as characters are the bytes of these. -/
lemma eq_flatMap_of_decodeFrom {offset : Nat} {bs : List UInt8} {cs : List Char}
    (h : decodeFrom offset bs = .ok cs) : bs = cs.flatMap String.utf8EncodeChar := by
  fun_induction decodeFrom offset bs generalizing cs with
  | case1 =>
    cases h
    rfl
  | case2 offset b bs low ih =>
    obtain ⟨cs, hcs, rfl⟩ := map_eq_ok_iff.1 h
    rw [List.flatMap_cons, ← ih hcs, utf8EncodeChar_of_lt low, List.singleton_append]
  | case3 => cases h
  | @case4 offset b bs long n hn good hg ih =>
    have hg : goodFollowers b 0 (bs.take n) = n := hg
    obtain ⟨cs, hcs, rfl⟩ := map_eq_ok_iff.1 h
    have taken : (bs.take n).length = n := by
      refine Nat.le_antisymm (List.length_take_le n bs) ?_
      have := goodFollowers_le b 0 (bs.take n)
      rwa [hg] at this
    rw [List.flatMap_cons, utf8EncodeChar_of_followers hn taken hg, ← ih hcs, List.cons_append,
      List.take_append_drop]
  | case5 => cases h
  | case6 => cases h

/-- Bytes are read as a text exactly when they are its bytes. -/
theorem decode_eq_ok_iff {bs : List UInt8} {s : String} : decode bs = .ok s ↔ encode s = bs := by
  have list : String.ofList s.toList = s := String.ofList_toList
  constructor
  · intro h
    obtain ⟨cs, hcs, rfl⟩ := map_eq_ok_iff.1 h
    rw [encode_ofList, eq_flatMap_of_decodeFrom hcs]
  · rintro rfl
    rw [← list, encode_ofList, decode, decodeFrom_flatMap]
    rfl

lemma encode_injective {s s' : String} (h : encode s = encode s') : s = s' := by
  have read := decode_eq_ok_iff.2 h
  rw [decode_eq_ok_iff.2 rfl] at read
  exact (Except.ok.inj read).symm

end ApiBridge.Text
