import FlightRelay.Frame.Packing
import FlightRelay.Proofs.Deflate.RoundTrip

/-!
# The limit of unpacking

Whatever library packs the frames, if it unpacks what it packs, then a frame is unpacked under every limit
that it keeps, and is refused under any other one.  Under the greatest limit, past which nothing is read,
it is lost.
-/

namespace FlightRelay

variable {lib : Deflater} {mode : Compression} {stream frame out : ByteArray} {limit : UInt64}
  {bound : Nat} {u : Unpacked}

namespace Unpacked

/-- A stream without a flaw is read to its end if it is shorter than the bound, and up to the bound if it
is not. -/
theorem readUpTo_sound (bytes : ByteArray) (bound : Nat) :
    ∃ out, readUpTo bound ⟨bytes, false⟩ = some out ∧
      (bytes.size < bound → out = bytes) ∧ (bound ≤ bytes.size → out.size = bound) := by
  by_cases hlong : bound ≤ bytes.size
  · refine ⟨_, if_pos hlong, fun hshort => absurd hlong (Nat.not_le.mpr hshort), fun _ => ?_⟩
    rw [ByteArray.size_extract, Nat.min_eq_left hlong, Nat.sub_zero]
  · exact ⟨bytes, if_neg hlong, fun _ => rfl, fun h => absurd h hlong⟩

end Unpacked

namespace Compression

/-! ## Bounds -/

/-- One byte past the limit. -/
theorem toNat_succ (h : limit.toNat + 1 < UInt64.size) : (limit + 1).toNat = limit.toNat + 1 := by
  rw [UInt64.toNat_add]
  exact Nat.mod_eq_of_lt h

/-- Nothing that is unpacked is longer than the limit. -/
theorem size_unpack (h : unpack lib .deflate stream limit = .ok out) : out.size ≤ limit.toNat := by
  unfold unpack at h
  dsimp only at h
  split at h
  · cases h
  · split at h
    · cases h
    · obtain rfl := Except.ok.inj h
      omega

/-- Past the greatest limit nothing is read. -/
theorem unpack_greatest (lib : Deflater) (stream : ByteArray) (h : limit.toNat + 1 = UInt64.size) :
    unpack lib .deflate stream limit = .ok ByteArray.empty := by
  have hbound : (limit + 1).toNat = 0 := by
    rw [UInt64.toNat_add, UInt64.toNat_one, h]
    rfl
  have hread : (lib.unpack stream).readUpTo 0 = some ByteArray.empty := by
    rw [Unpacked.readUpTo, if_pos (Nat.zero_le _)]
    exact congrArg some (ByteArray.extract_eq_empty_iff.mpr (Nat.min_le_left _ _))
  unfold unpack
  dsimp only
  rw [hbound, hread]
  rfl

/-! ## Streams of the library -/

/-- What was packed is unpacked if it keeps the limit, and refused if it does not.  The greatest limit is
the exception. -/
theorem unpack_pack_deflate (hlib : lib.Inverts) (hlimit : limit.toNat + 1 < UInt64.size) :
    unpack lib .deflate (pack lib .deflate frame) limit
      = if frame.size ≤ limit.toNat then .ok frame else .error (.tooLarge limit) := by
  obtain ⟨out, hread, hwhole, hcut⟩ := Unpacked.readUpTo_sound frame (limit.toNat + 1)
  unfold unpack pack
  dsimp only
  rw [hlib, toNat_succ hlimit, hread]
  dsimp only
  by_cases hsize : frame.size ≤ limit.toNat
  · rw [hwhole (Nat.lt_succ_of_le hsize), if_neg (Nat.not_lt.mpr hsize), if_pos hsize]
  · have hout := hcut (Nat.lt_of_not_le hsize)
    rw [if_pos (by omega), if_neg hsize]

/-- What is packed is unpacked again under every limit that it keeps, except the greatest one. -/
theorem unpack_pack (hlib : lib.Inverts) (hsize : frame.size ≤ limit.toNat)
    (hlimit : limit.toNat + 1 < UInt64.size) :
    mode.unpack lib (mode.pack lib frame) limit = .ok frame := by
  cases mode with
  | none => rfl
  | deflate => exact (unpack_pack_deflate hlib hlimit).trans (if_pos hsize)

/-- What is packed is unpacked again if it keeps the limit, and refused if it does not; under the greatest
limit it is lost.  Nothing that is unpacked, from whatever stream, is longer than the limit. -/
theorem unpack_limited (hlib : lib.Inverts) (frame : ByteArray) (limit : UInt64) :
    unpack lib .deflate (pack lib .deflate frame) limit
      = (if limit.toNat + 1 = UInt64.size then .ok ByteArray.empty
        else if frame.size ≤ limit.toNat then .ok frame
        else .error (.tooLarge limit)) ∧
    ∀ stream out, unpack lib .deflate stream limit = .ok out → out.size ≤ limit.toNat := by
  have hle := limit.toNat_lt_size
  refine ⟨?_, fun stream out => size_unpack⟩
  split
  · exact unpack_greatest lib _ ‹_›
  · exact unpack_pack_deflate hlib (by omega)

theorem unpack_limited_letters :
    let frame : ByteArray := ⟨#[97, 98, 99]⟩
    Deflate.library.Inverts ∧
      unpack Deflate.library .deflate (pack Deflate.library .deflate frame) 3 = .ok frame ∧
      unpack Deflate.library .deflate (pack Deflate.library .deflate frame) 2 = .error (.tooLarge 2) ∧
      frame.size ≤ (3 : UInt64).toNat := by
  intro frame
  have hlib := Deflate.library_inverts
  obtain ⟨hthree, hsize⟩ := unpack_limited hlib frame 3
  have hkept := hthree.trans ((if_neg (by decide)).trans (if_pos (by decide)))
  have hrefused := (unpack_limited hlib frame 2).1.trans
    ((if_neg (by decide)).trans (if_neg (by decide)))
  exact ⟨hlib, hkept, hrefused, hsize _ _ hkept⟩

/-- A frame that keeps the greatest limit is not restored under it. -/
theorem lost_under_greatest :
    let limit : UInt64 := 18446744073709551615
    let frame : ByteArray := ⟨#[97, 98, 99]⟩
    Deflate.library.Inverts ∧ frame.size ≤ limit.toNat ∧
      unpack Deflate.library .deflate (pack Deflate.library .deflate frame) limit
        = .ok ByteArray.empty ∧
      frame ≠ ByteArray.empty :=
  ⟨Deflate.library_inverts, by decide, unpack_greatest _ _ (by decide), by decide⟩

end Compression

end FlightRelay
