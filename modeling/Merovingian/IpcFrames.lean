import Mathlib.Data.UInt

/-!
The frames between the server and its workers, as far as their sizes decide: buffers are
allocated, and libsodium and the socket do their part. The writer compares in 64 bits; the
reader adds what the cipher adds in 32.
-/

namespace Merovingian.IpcFrames

def ipcMaxFrameBytes : UInt32 := 24 * 1024 * 1024

def envelopeHeadroom : UInt64 := 2 * 1024 * 1024

def frameBytesForResponseCap (maxResponseBodyBytes : UInt64) : UInt32 :=
  let encoded := (maxResponseBodyBytes + 2) / 3 * 4
  let needed := max (encoded + envelopeHeadroom) ipcMaxFrameBytes.toUInt64
  (min needed 0xFFFFFFFF).toUInt32

def ciphertextSize (plaintextSize : UInt64) : UInt64 :=
  plaintextSize + 17

/-- The length in front of the frame. The cipher refuses a buffer of another size. -/
def writeFrame (maxFrameBytes : UInt32) (plaintextSize : UInt64) : Option UInt32 :=
  if maxFrameBytes.toUInt64 < plaintextSize then none
  else
    let ctLen := (ciphertextSize plaintextSize).toUInt32
    if ctLen.toUInt64 = ciphertextSize plaintextSize then some ctLen else none

def readFrame (maxFrameBytes ctLen : UInt32) : Option UInt32 :=
  let overhead := (ciphertextSize 0).toUInt32
  if ctLen < overhead || maxFrameBytes + overhead < ctLen then none else some (ctLen - overhead)

/-- What one end writes the other end reads, and there is room for the responses that the
cap allows. -/
structure FramesAgree (cap : UInt64) : Prop where
  read : ∀ size ctLen, writeFrame (frameBytesForResponseCap cap) size = some ctLen →
    (readFrame (frameBytesForResponseCap cap) ctLen).map UInt32.toUInt64 = some size
  fits : 4 * ((cap.toNat + 2) / 3) + 2 * 1024 * 1024 < 2 ^ 32 →
    ∀ body envelope : Nat, body ≤ cap.toNat → envelope ≤ 2 * 1024 * 1024 →
      (writeFrame (frameBytesForResponseCap cap)
        (.ofNat (4 * ((body + 2) / 3) + envelope))).isSome = true

theorem toNat_frameBytesForResponseCap (cap : UInt64) :
    (frameBytesForResponseCap cap).toNat =
      min (max ((cap + 2) / 3 * 4 + envelopeHeadroom).toNat (24 * 1024 * 1024)) (2 ^ 32 - 1) := by
  have hmax (x y : UInt64) : (max x y).toNat = max x.toNat y.toNat := by
    show (if x ≤ y then y else x).toNat = _
    grind [UInt64.le_iff_toNat_le]
  have hmin (x y : UInt64) : (min x y).toNat = min x.toNat y.toNat := by
    show (if x ≤ y then x else y).toNat = _
    grind [UInt64.le_iff_toNat_le]
  rw [frameBytesForResponseCap, UInt64.toNat_toUInt32, hmin, hmax]
  exact Nat.mod_eq_of_lt (Nat.lt_succ_of_le (min_le_right _ _))

theorem writeFrame_eq_some_iff {maxFrameBytes ctLen : UInt32} {size : UInt64} :
    writeFrame maxFrameBytes size = some ctLen ↔
      size.toNat ≤ maxFrameBytes.toNat ∧ ctLen.toNat = size.toNat + 17 := by
  have hbound := maxFrameBytes.toNat_lt
  have hprefix := ctLen.toNat_lt
  have hsum : (ciphertextSize size).toNat = (size.toNat + 17) % 2 ^ 64 := UInt64.toNat_add ..
  simp only [writeFrame, UInt64.lt_iff_toNat_lt, UInt32.toNat_toUInt64, ← UInt64.toNat_inj,
    UInt64.toNat_toUInt32, hsum]
  split_ifs with hlong hsame
  · rw [false_iff]
    omega
  · rw [Option.some.injEq, ← UInt32.toNat_inj, UInt64.toNat_toUInt32, hsum]
    omega
  · rw [false_iff]
    omega

theorem readFrame_eq_some_iff {maxFrameBytes ctLen size : UInt32} :
    readFrame maxFrameBytes ctLen = some size ↔ ctLen.toNat = size.toNat + 17 ∧
      ctLen.toNat ≤ (maxFrameBytes.toNat + 17) % 2 ^ 32 := by
  have hsize := size.toNat_lt
  have hprefix := ctLen.toNat_lt
  have hsum : (maxFrameBytes + 17).toNat = (maxFrameBytes.toNat + 17) % 2 ^ 32 :=
    UInt32.toNat_add ..
  have hrest : (ctLen - 17).toNat = (2 ^ 32 - 17 + ctLen.toNat) % 2 ^ 32 := UInt32.toNat_sub ..
  have hoverhead : (17 : UInt32).toNat = 17 := rfl
  simp only [readFrame, show (ciphertextSize 0).toUInt32 = 17 from rfl, Bool.or_eq_true,
    decide_eq_true_eq, UInt32.lt_iff_toNat_lt, hsum, hoverhead]
  split_ifs with hrefused
  · rw [false_iff]
    omega
  · rw [Option.some.injEq, ← UInt32.toNat_inj, hrest]
    omega

theorem framesAgree_iff (cap : UInt64) :
    FramesAgree cap ↔ ((cap + 2) / 3 * 4 + envelopeHeadroom).toNat + 17 < 2 ^ 32 := by
  have hbytes := toNat_frameBytesForResponseCap cap
  constructor
  · intro h
    -- the empty plaintext is always written, with a prefix of 17
    have hread := h.read 0 17 (writeFrame_eq_some_iff.mpr ⟨Nat.zero_le _, rfl⟩)
    obtain ⟨size, hsize, -⟩ := Option.map_eq_some_iff.mp hread
    have hle := (readFrame_eq_some_iff.mp hsize).2
    have : (17 : UInt32).toNat = 17 := rfl
    omega
  · intro hcap
    refine ⟨fun size ctLen hwritten => ?_, fun hfits body envelope hbody henvelope => ?_⟩
    · obtain ⟨hle, hprefix⟩ := writeFrame_eq_some_iff.mp hwritten
      rw [Option.map_eq_some_iff]
      refine ⟨size.toUInt32, readFrame_eq_some_iff.mpr ⟨?_, ?_⟩, ?_⟩
      · rw [UInt64.toNat_toUInt32]
        omega
      · omega
      · rw [← UInt64.toNat_inj, UInt32.toNat_toUInt64, UInt64.toNat_toUInt32]
        omega
    · have hsum : ((cap + 2) / 3 * 4 + envelopeHeadroom).toNat =
          (cap.toNat + 2) / 3 * 4 + 2 * 1024 * 1024 := by
        have hnowrap : cap.toNat + 2 < 2 ^ 64 := by omega
        simp only [envelopeHeadroom, UInt64.toNat_add, UInt64.toNat_mul, UInt64.toNat_div,
          UInt64.reduceToNat, Nat.mod_eq_of_lt hnowrap]
        omega
      have hsize : (UInt64.ofNat (4 * ((body + 2) / 3) + envelope)).toNat =
          4 * ((body + 2) / 3) + envelope := by
        rw [UInt64.toNat_ofNat_of_lt']
        exact lt_of_le_of_lt (by omega) (show 2 ^ 32 < UInt64.size by decide)
      rw [Option.isSome_iff_exists]
      refine ⟨.ofNat (4 * ((body + 2) / 3) + envelope + 17), writeFrame_eq_some_iff.mpr ⟨?_, ?_⟩⟩
      · omega
      · rw [hsize, UInt32.toNat_ofNat_of_lt']
        exact lt_of_lt_of_le (b := 2 ^ 32) (by omega) (by decide)

/-- From a cap a little below 3 GiB on, the reader's bound wraps. -/
theorem wrapped_bound_refuses_every_frame : ¬ FramesAgree 3221225472 :=
  fun h => absurd (h.read 0 17 (by decide)) (by decide)

end Merovingian.IpcFrames
