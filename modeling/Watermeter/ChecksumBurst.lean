import Watermeter.DevConfig
import Watermeter.ShiftRegister

/-! What the checksum of the configuration record detects: it is a linear feedback register fed the bits of
the record, the lowest of each byte first, so no burst of sixteen bits goes unnoticed. -/

namespace Watermeter

open NorFlash ShiftRegister

/-- The generator of `checksum`. -/
def crcGenerator : BitVec 16 := 0xA010#16

theorem crcGenerator_top : crcGenerator.getLsbD (16 - 1) = true := by decide

theorem crcByte_eq_absorb (crc : BitVec 16) (b : Byte) : crcByte crc b = absorb crcGenerator crc (bitsOf b) := by
  rw [absorb_bitsOf (by decide)]
  exact List.foldl_const (shift crcGenerator) _ (List.range 8)

theorem foldl_crcByte (crc : BitVec 16) (bs : List Byte) :
    bs.foldl crcByte crc = absorb crcGenerator crc (bs.flatMap bitsOf) :=
  foldl_eq_absorb crcByte_eq_absorb crc bs

/-- Exclusive or of two buffers. -/
def xorBytes (p q : List Byte) : List Byte := List.zipWith (· ^^^ ·) p q

/-- Bit `k` of a buffer, the lowest bit of each byte first. -/
def bitAt (bs : List Byte) (k : Nat) : Bool := (bs.getD (k / 8) 0#8).getLsbD (k % 8)

theorem bitAt_eq (bs : List Byte) (k : Nat) : (bs.flatMap bitsOf).getD k false = bitAt bs k :=
  getD_flatMap_bitsOf (by decide) bs k

/-- The checksum is affine over the field of two elements. -/
theorem checksum_affine {p q r : List Byte} (hq : q.length = p.length) (hr : r.length = p.length) :
    checksum (xorBytes (xorBytes p q) r) = checksum p ^^^ checksum q ^^^ checksum r := by
  have hlen : ∀ {a b : List Byte}, b.length = a.length → (xorBytes a b).length = a.length := by
    intro a b h
    rw [xorBytes, List.length_zipWith, h, Nat.min_self]
  have hbits : ∀ {a b : List Byte} (n : Nat), b.length = a.length →
      ((a.take n).flatMap (bitsOf (n := 8))).length = ((b.take n).flatMap (bitsOf (n := 8))).length := by
    intro a b n h
    simp [h]
  unfold checksum
  rw [hlen (hr.trans (hlen hq).symm), hlen hq, hq, hr, foldl_crcByte, foldl_crcByte, foldl_crcByte, foldl_crcByte,
    ← absorb_affine _ (hbits _ hq) (hbits _ hr), ← flatMap_bitsOf_xor, ← flatMap_bitsOf_xor]
  simp only [xorBytes, List.take_zipWith]

namespace Config

/-- The payloads differ only within sixteen consecutive bits. -/
def BitBurst (c c' : Config) : Prop :=
  ∃ s, ∀ k, bitAt c.payload k ≠ bitAt c'.payload k → s ≤ k ∧ k < s + 16

/-- The payloads differ only within two consecutive bytes. -/
def ByteBurst (c c' : Config) : Prop :=
  ∃ i, ∀ j, c.payload.getD j 0#8 ≠ c'.payload.getD j 0#8 → j = i ∨ j = i + 1

theorem ByteBurst.bitBurst {c c' : Config} (h : c.ByteBurst c') : c.BitBurst c' := by
  obtain ⟨i, hi⟩ := h
  refine ⟨8 * i, fun k hk => ?_⟩
  rw [← bitAt_eq, ← bitAt_eq] at hk
  refine window_bitsOf (i := i) (k := 2) (by decide) (fun j hj => ?_) k hk
  rcases hi j hj with h | h <;> omega

/-- A burst in the payload changes the checksum. -/
theorem BitBurst.payload_eq {c c' : Config} (h : c.BitBurst c') (hsum : checksum c.toBytes = checksum c'.toBytes) :
    c.payload = c'.payload := by
  obtain ⟨s, hs⟩ := h
  rw [checksum_toBytes, checksum_toBytes, foldl_crcByte, foldl_crcByte] at hsum
  refine flatMap_bitsOf_injective rfl (absorb_burst crcGenerator_top ?_ s ?_ hsum)
  · simp
  · intro k hk
    rw [bitAt_eq, bitAt_eq] at hk
    exact hs k hk

theorem ext_payload {c c' : Config} (hp : c.payload = c'.payload) (hcrc : c.crc = c'.crc) : c = c' := by
  apply toBytes_injective
  rw [toBytes, toBytes, hp, hcrc]

/-- A record hit by a burst no longer passes the test. -/
theorem BitBurst.checksum_ne {c c' : Config} (h : c.BitBurst c') (hcrc : c.crc = checksum c.toBytes)
    (hsame : c'.crc = c.crc) (hne : c' ≠ c) : checksum c'.toBytes ≠ c'.crc := by
  intro hsum
  have hpay : c.payload = c'.payload := h.payload_eq (by rw [hsum, hsame, hcrc])
  exact hne (ext_payload hpay hsame.symm).symm

end Config

/-! ### A record with a wrong checksum -/

/-- The scan stops at such a record and keeps the one before it. -/
theorem scanConfig_refuses {m : Mem} {addrEnd : Nat} {cur : Config} {a : Nat}
    (h : checksum (readConfig m a).toBytes ≠ (readConfig m a).crc) :
    (scanConfig m addrEnd cur a).1 = cur ∧ (scanConfig m addrEnd cur a).2.1 = a := by
  rw [scanConfig]
  split
  · rw [if_neg fun hv => h hv.2]; exact ⟨rfl, rfl⟩
  · exact ⟨rfl, rfl⟩

/-- Whatever the scan has followed is the record it started from or one that passes the test. -/
theorem scanConfig_valid (m : Mem) (addrEnd : Nat) (cur : Config) (a : Nat) :
    (scanConfig m addrEnd cur a).1 = cur ∨ (scanConfig m addrEnd cur a).1.Valid := by
  induction cur, a using scanConfig.induct m addrEnd with
  | case1 cur a hlt next hv htop ih =>
      rw [scanConfig, if_pos hlt, if_pos hv, if_pos htop]
      apply Or.inr
      rcases ih with h | h
      · rw [h]; exact hv
      · exact h
  | case2 cur a hlt next hv htop =>
      rw [scanConfig, if_pos hlt, if_pos hv, if_neg htop]; exact Or.inl rfl
  | case3 cur a hlt next hv =>
      rw [scanConfig, if_pos hlt, if_neg hv]; exact Or.inl rfl
  | case4 cur a hlt => rw [scanConfig, if_neg hlt]; exact Or.inl rfl

theorem initConfig_refuses {v : Nvm} {r : Ram} {c : Config} (hnv : v.userCfg = some c)
    (h : checksum c.toBytes ≠ c.crc) : initConfig v r = reinitConfig (getUserDataAddr v.flash r) := by
  simp only [initConfig, hnv]
  exact if_pos (Or.inr h)

/-- The checksum is affine, injective on changes within sixteen consecutive bits, and a record that a
short burst has changed is accepted neither by the scan nor from NV. -/
theorem checksum_burst :
    (∀ p q r : List Byte, q.length = p.length → r.length = p.length →
      checksum (xorBytes (xorBytes p q) r) = checksum p ^^^ checksum q ^^^ checksum r) ∧
    (∀ c c' : Config, c.BitBurst c' → checksum c.toBytes = checksum c'.toBytes → c.payload = c'.payload) ∧
    ∀ c c' : Config, c.crc = checksum c.toBytes → c'.crc = c.crc → c' ≠ c → c.ByteBurst c' ∨ c.BitBurst c' →
      checksum c'.toBytes ≠ c'.crc ∧
      (∀ m addrEnd cur a, readConfig m a = c' →
        (scanConfig m addrEnd cur a).1 = cur ∧ (scanConfig m addrEnd cur a).2.1 = a) ∧
      (∀ m addrEnd cur a, cur ≠ c' → (scanConfig m addrEnd cur a).1 ≠ c') ∧
      ∀ v r, v.userCfg = some c' → initConfig v r = reinitConfig (getUserDataAddr v.flash r) := by
  refine ⟨fun p q r => checksum_affine, fun c c' => Config.BitBurst.payload_eq, ?_⟩
  intro c c' hcrc hsame hne hburst
  have hbits : c.BitBurst c' := hburst.elim Config.ByteBurst.bitBurst id
  have hbad : checksum c'.toBytes ≠ c'.crc := hbits.checksum_ne hcrc hsame hne
  refine ⟨hbad, ?_, ?_, ?_⟩
  · rintro m addrEnd cur a rfl
    exact scanConfig_refuses hbad
  · intro m addrEnd cur a hcur hfound
    rcases scanConfig_valid m addrEnd cur a with h | h
    · exact hcur (h.symm.trans hfound)
    · rw [hfound] at h
      exact hbad h.2
  · intro v r hnv
    exact initConfig_refuses hnv hbad

end Watermeter
