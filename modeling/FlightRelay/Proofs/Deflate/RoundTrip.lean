import FlightRelay.Deflate.Library
import Mathlib.Algebra.Ring.Nat
import Mathlib.Data.List.Basic

/-!
# The library unpacks what it packs

Stored blocks are read back byte by byte.  A packed stream either was read back when it was packed, or it
is made of stored blocks; so the library inverts itself, as is asked of any library.
-/

namespace FlightRelay

/-! ## Byte strings -/

/-- The loop puts the bytes from the index on behind those that are done. -/
theorem toList_loop (bytes : ByteArray) (i : Nat) (done : List UInt8) :
    ByteArray.toList.loop bytes i done = done.reverse ++ bytes.data.toList.drop i := by
  induction h : bytes.size - i generalizing i done with
  | zero =>
    rw [ByteArray.toList.loop, if_neg (by omega), List.drop_eq_nil_of_le, List.append_nil]
    show bytes.size ≤ i
    omega
  | succ n ih =>
    have hi : i < bytes.size := by omega
    have hbyte : bytes.get! i = bytes.data.toList[i] := by
      show bytes.data[i]! = _
      rw [getElem!_pos bytes.data i hi, Array.getElem_toList]
    have hdrop : bytes.data.toList.drop i = bytes.data.toList[i] :: bytes.data.toList.drop (i + 1) :=
      List.drop_eq_getElem_cons hi
    rw [ByteArray.toList.loop, if_pos hi, ih _ _ (by omega), hdrop, hbyte, List.reverse_cons,
      List.append_assoc]
    rfl

/-- A byte string is the list of its bytes. -/
theorem toList_eq (bytes : ByteArray) : bytes.toList = bytes.data.toList := toList_loop bytes 0 []

/-- Arrays of the same bytes are the same. -/
theorem eq_of_toList_eq {a b : ByteArray} (h : a.toList = b.toList) : a = b := by
  rw [toList_eq, toList_eq] at h
  exact ByteArray.ext (Array.toList_inj.mp h)

/-- Bytes are pushed behind those that are there. -/
theorem foldl_push (bytes : List UInt8) (out : ByteArray) :
    bytes.foldl ByteArray.push out = ⟨out.data ++ bytes.toArray⟩ := by
  induction bytes generalizing out with
  | nil => simp
  | cons b bs ih =>
    rw [List.foldl_cons, ih, ByteArray.data_push]
    simp

theorem size_foldl_push (bytes : List UInt8) (out : ByteArray) :
    (bytes.foldl ByteArray.push out).size = out.size + bytes.length := by
  rw [foldl_push]
  exact Array.size_append.trans (congrArg _ List.size_toArray)

theorem foldl_push_toList (bytes : ByteArray) :
    bytes.toList.foldl ByteArray.push ByteArray.empty = bytes := by
  rw [foldl_push, toList_eq]
  exact ByteArray.ext (by simp)

namespace Deflate

variable {n value : Nat} {a rest : Bits} {bs body : List UInt8} {out : ByteArray} {room fuel : Nat}

/-! ## Numbers and bits -/

/-- Later bits count for more. -/
theorem toNumber_append : toNumber (a ++ rest) = toNumber a + 2 ^ a.length * toNumber rest := by
  induction a with
  | nil => simp [toNumber]
  | cons b bs ih =>
    rw [List.cons_append, toNumber, toNumber, ih, List.length_cons, Nat.pow_succ', Nat.mul_add,
      Nat.add_assoc, Nat.mul_assoc]

theorem length_numberBits : (numberBits n value).length = n := by
  rw [numberBits, List.length_map, List.length_range]

/-- A number is read from as many of its bits as were written. -/
theorem toNumber_numberBits : toNumber (numberBits n value) = value % 2 ^ n := by
  induction n with
  | zero => rw [Nat.pow_zero, Nat.mod_one]; rfl
  | succ n ih =>
    have hlast : numberBits (n + 1) value = numberBits n value ++ [value.testBit n] := by
      rw [numberBits, numberBits, List.range_succ, List.map_append]
      rfl
    rw [hlast, toNumber_append, ih, length_numberBits, Nat.mod_pow_succ, ← Nat.toNat_testBit]
    rfl

/-- As many bits are read as the number has, and the rest is left. -/
theorem readNumber_append (h : a.length = n) : readNumber n (a ++ rest) = .ok (toNumber a, rest) := by
  unfold readNumber
  rw [List.take_left' h, List.drop_left' h]
  exact if_pos h

/-- A byte is read as the number that it is. -/
theorem readNumber_byte (b : UInt8) (bs : List UInt8) :
    readNumber 8 (ofBytes (b :: bs)) = .ok (b.toNat, ofBytes bs) := by
  show readNumber 8 (numberBits 8 b.toNat ++ ofBytes bs) = _
  rw [readNumber_append length_numberBits, toNumber_numberBits, Nat.mod_eq_of_lt b.toNat_lt]

/-- Two bytes are read as the number that they make. -/
theorem readNumber_short (h : n ≤ 65535) (bs : List UInt8) :
    readNumber 16 (ofBytes (shortBytes n ++ bs)) = .ok (n, ofBytes bs) := by
  have hbits : ofBytes (shortBytes n ++ bs)
      = (numberBits 8 (n % 256) ++ numberBits 8 (n / 256)) ++ ofBytes bs := by
    show numberBits 8 (n % 256).toUInt8.toNat ++ (numberBits 8 (n / 256).toUInt8.toNat ++ ofBytes bs) = _
    have hlow : (n % 256).toUInt8.toNat = n % 256 :=
      UInt8.toNat_ofNat_of_lt' (Nat.mod_lt _ (by decide))
    have hhigh : (n / 256).toUInt8.toNat = n / 256 :=
      UInt8.toNat_ofNat_of_lt' (Nat.div_lt_of_lt_mul (Nat.lt_succ_of_le h))
    rw [hlow, hhigh, List.append_assoc]
  rw [hbits, readNumber_append (by rw [List.length_append, length_numberBits, length_numberBits]),
    toNumber_append, length_numberBits, toNumber_numberBits, toNumber_numberBits]
  congr 2
  omega

/-- There are eight bits to a byte. -/
theorem length_ofBytes : (ofBytes bs).length = 8 * bs.length := by
  induction bs with
  | nil => rfl
  | cons b bs ih =>
    show (numberBits 8 b.toNat ++ ofBytes bs).length = _
    rw [List.length_append, length_numberBits, ih, List.length_cons, Nat.mul_succ, Nat.add_comm]

/-! ## Stored blocks -/

/-- What is stored is put out byte by byte. -/
theorem copyStored_ofBytes (h : out.size + body.length ≤ room) :
    copyStored room body.length out (ofBytes (body ++ bs))
      = .more (body.foldl ByteArray.push out) (ofBytes bs) := by
  induction body generalizing out with
  | nil => rfl
  | cons b body ih =>
    rw [List.length_cons] at h
    rw [List.length_cons, copyStored, if_neg (by omega), List.cons_append, readNumber_byte]
    show copyStored room body.length (out.push b.toNat.toUInt8) _ = _
    have hb : b.toNat.toUInt8 = b := UInt8.ofNat_toNat
    rw [hb]
    exact ih (by rw [ByteArray.size_push]; omega)

/-- The head of a stored block; behind it the byte is filled up. -/
theorem readBlockHead_stored (last : Bool) (bs : List UInt8) :
    readBlockHead (ofBytes ((if last then 1 else 0) :: bs))
      = .ok ((last, 0), List.replicate 5 false ++ ofBytes bs) := by
  have hbits : ofBytes ((if last then 1 else 0) :: bs)
      = [last] ++ ([false, false] ++ (List.replicate 5 false ++ ofBytes bs)) := by
    cases last <;> rfl
  have hlast : readNumber 1 ([last] ++ ([false, false] ++ (List.replicate 5 false ++ ofBytes bs)))
      = .ok (toNumber [last], _) := readNumber_append rfl
  have hkind : readNumber 2 ([false, false] ++ (List.replicate 5 false ++ ofBytes bs))
      = .ok (toNumber [false, false], _) := readNumber_append rfl
  rw [readBlockHead, hbits, hlast]
  dsimp only [bind, Except.bind]
  rw [hkind]
  cases last <;> rfl

/-- The filling is skipped. -/
theorem alignToByte_filled (bs : List UInt8) :
    alignToByte (List.replicate 5 false ++ ofBytes bs) = ofBytes bs := by
  have hlength : (List.replicate 5 false ++ ofBytes bs).length % 8 = 5 := by
    rw [List.length_append, List.length_replicate, length_ofBytes]
    omega
  rw [alignToByte, hlength]
  exact List.drop_left' List.length_replicate

/-- The length of a stored block is read with its complement. -/
theorem readStoredLength_filled (h : n ≤ maxStored) (bs : List UInt8) :
    readStoredLength
        (List.replicate 5 false ++ ofBytes (shortBytes n ++ (shortBytes (65535 - n) ++ bs)))
      = .ok (n, ofBytes bs) := by
  rw [readStoredLength, alignToByte_filled, readNumber_short h]
  dsimp only [bind, Except.bind]
  rw [readNumber_short (Nat.sub_le _ _)]
  exact if_pos (Nat.add_sub_of_le h)

/-- A stored block is put out, and what follows it is read. -/
theorem inflateBlocks_storedBlock (last : Bool) (hbody : body.length ≤ maxStored)
    (hroom : out.size + body.length ≤ room) :
    inflateBlocks room (fuel + 1) out (ofBytes (storedBlock last body ++ bs))
      = if last then .more (body.foldl ByteArray.push out) (ofBytes bs)
        else inflateBlocks room fuel (body.foldl ByteArray.push out) (ofBytes bs) := by
  have hblock : storedBlock last body ++ bs = (if last then 1 else 0)
      :: (shortBytes body.length ++ (shortBytes (65535 - body.length) ++ (body ++ bs))) := by
    simp [storedBlock]
  have hput : inflateBlock 0 room out (List.replicate 5 false
        ++ ofBytes (shortBytes body.length ++ (shortBytes (65535 - body.length) ++ (body ++ bs))))
      = .more (body.foldl ByteArray.push out) (ofBytes bs) := by
    rw [inflateBlock, readStoredLength_filled hbody]
    exact copyStored_ofBytes hroom
  rw [hblock, inflateBlocks, readBlockHead_stored]
  dsimp only
  rw [hput]

/-- The last block of a stream puts it out. -/
theorem inflateBlocks_last (hbody : body.length ≤ maxStored) (hroom : out.size + body.length ≤ room) :
    inflateBlocks room (fuel + 1) out (ofBytes (storedBlock true body))
      = .more (body.foldl ByteArray.push out) [] := by
  rw [← List.append_nil (storedBlock true body), inflateBlocks_storedBlock true hbody hroom]
  rfl

/-- The blocks of a body put it out. -/
theorem inflateBlocks_storedBlocks (hbody : body.length ≤ (n + 1) * maxStored)
    (hroom : out.size + body.length ≤ room) (hfuel : n < fuel) :
    inflateBlocks room fuel out (ofBytes (storedBlocks n body))
      = .more (body.foldl ByteArray.push out) [] := by
  induction n generalizing body out fuel with
  | zero =>
    obtain ⟨fuel, rfl⟩ : ∃ k, fuel = k + 1 := ⟨fuel - 1, by omega⟩
    exact inflateBlocks_last (by omega) hroom
  | succ n ih =>
    obtain ⟨fuel, rfl⟩ : ∃ k, fuel = k + 1 := ⟨fuel - 1, by omega⟩
    rw [storedBlocks]
    split
    · exact inflateBlocks_last ‹_› hroom
    · have htake : (body.take maxStored).length = maxStored := List.length_take_of_le (by omega)
      have hdrop : (body.drop maxStored).length = body.length - maxStored := List.length_drop
      have hsize := size_foldl_push (body.take maxStored) out
      rw [Nat.succ_mul] at hbody
      rw [inflateBlocks_storedBlock false (by omega) (by omega), if_neg Bool.false_ne_true,
        ih (by omega) (by omega) (by omega), ← List.foldl_append, List.take_append_drop]

theorem le_length_storedBlock (last : Bool) (body : List UInt8) :
    body.length ≤ (storedBlock last body).length := by
  rw [storedBlock, List.length_append]
  exact Nat.le_add_left _ _

/-- Stored blocks are no shorter than what they store. -/
theorem le_length_storedBlocks (n : Nat) (body : List UInt8) :
    body.length ≤ (storedBlocks n body).length := by
  induction n generalizing body with
  | zero => exact le_length_storedBlock true body
  | succ n ih =>
    rw [storedBlocks]
    split
    · exact le_length_storedBlock true body
    · have hrest := ih (body.drop maxStored)
      have hblock := le_length_storedBlock false (body.take maxStored)
      rw [List.length_append]
      rw [List.length_drop] at hrest
      rw [List.length_take] at hblock
      omega

/-- A body that is stored is put out. -/
theorem inflate_packStored {bytes : ByteArray} (h : bytes.size ≤ room) :
    inflate room (packStored bytes) = .more bytes [] := by
  have hlength : bytes.toList.length = bytes.size := by
    rw [toList_eq]
    rfl
  have hstream : (packStored bytes).toList
      = storedBlocks (bytes.toList.length / maxStored) bytes.toList := by
    rw [toList_eq]
    rfl
  unfold inflate
  rw [hstream, inflateBlocks_storedBlocks, foldl_push_toList]
  · have hdiv := Nat.lt_succ_self (bytes.toList.length / maxStored)
    exact Nat.le_of_lt ((Nat.div_lt_iff_lt_mul (by decide)).mp hdiv)
  · rw [hlength]
    show 0 + bytes.size ≤ room
    rwa [Nat.zero_add]
  · have hlong := le_length_storedBlocks (bytes.toList.length / maxStored) bytes.toList
    have hdiv := Nat.div_le_self bytes.toList.length maxStored
    rw [length_ofBytes]
    omega

/-- A body that is stored takes at least its own room. -/
theorem size_le_packStored (bytes : ByteArray) : bytes.size ≤ (packStored bytes).size := by
  have hlong := le_length_storedBlocks (bytes.toList.length / maxStored) bytes.toList
  rw [toList_eq] at hlong
  rw [packStored, toList_eq]
  exact hlong

/-- What is stored is unpacked. -/
theorem unpack_packStored (bytes : ByteArray) : unpack (packStored bytes) = ⟨bytes, false⟩ := by
  have hroom : bytes.size ≤ mostFromByte * (packStored bytes).size :=
    Nat.le_trans (size_le_packStored bytes) (Nat.le_mul_of_pos_left _ (by decide))
  rw [unpack, inflate_packStored hroom]

/-- The library unpacks what it packs: it has read the stream back, or it has stored the bytes. -/
theorem library_inverts : library.Inverts := by
  intro bytes
  show unpack (pack bytes) = _
  unfold pack
  dsimp only
  split
  · rename_i hholds
    obtain ⟨hwhole, hsame⟩ := Bool.and_eq_true_iff.mp hholds
    have hbytes := eq_of_toList_eq (of_decide_eq_true hsame)
    rw [Bool.not_eq_true'] at hwhole
    generalize unpack (packTokens bytes) = u at hwhole hbytes
    obtain ⟨read, flawed⟩ := u
    obtain rfl : flawed = false := hwhole
    obtain rfl : read = bytes := hbytes
    rfl
  · exact unpack_packStored bytes

end Deflate

end FlightRelay
