import Watermeter.NvWrite

/-! The frame counter of the network layer, which `drv_nv.c` keeps in a module of its own: words one behind the other in
the sector in use, the last of which counts. The search for it goes by pages and by units of four words, from the end. -/

namespace Watermeter.Nv

open NorFlash CrashLogic

/-- `FRAMECOUNT_PAYLOAD_START`. -/
def framecountPayloadStart (opSect : Nat) : Nat := align4 (moduleSectStart .nwkFrameCount opSect + sizeofSectInfo)

/-- `FRAMECOUNT_NUM_PER_SECT`. -/
def framecountNumPerSect : Nat := (flashSectorSize - sizeofSectInfo) / 4

/-- `UPDATE_FRAMECOUNT_THRES`. -/
def updateFramecountThres : BitVec 32 := 1024#32

/-- A word that is not written. -/
def idleWord : BitVec 32 := 0xffffffff#32

/-! ### The search -/

/-- The words from an address on. -/
def readWords (m : Mem) (a n : Nat) : List (BitVec 32) := (List.range n).map fun i => read32 m (a + 4 * i)

/-- The first loop of `nv_nwkFrameCountSearch`, over the pages down to the second: the end of the page to look into, the
bytes to check there, and `validAddr`. When none of these pages is in use it is the first one. -/
def frameCountPage (m : Mem) (opSect : Nat) : Nat → Nat → Nat → Nat × Nat × Nat
  | 0, _, validAddr =>
      ((framecountPayloadStart opSect + flashPageSize) / flashPageSize * flashPageSize,
        (flashPageSize - sizeofSectInfo) / 4 * 4, validAddr)
  | pages + 1, opPageAddr, validAddr =>
      if read32 m opPageAddr ≠ idleWord then
        ((opPageAddr + flashPageSize) / flashPageSize * flashPageSize, flashPageSize, validAddr)
      else frameCountPage m opSect pages (opPageAddr - flashPageSize) opPageAddr

/-- The words of a unit behind its first: the last one that is written, and the address behind it. -/
def frameCountInUnit : BitVec 32 → Nat → List (BitVec 32) → Option (BitVec 32 × Nat)
  | _, _, [] => none
  | frameCount, addr, checkValid :: rest =>
      if checkValid ≠ idleWord then
        if rest = [] then some (checkValid, addr + 4) else frameCountInUnit checkValid (addr + 4) rest
      else some (frameCount, addr)

/-- The second loop, over the units of a page down from its end: the count that was found, and `validAddr`. -/
def frameCountUnits (m : Mem) : Nat → Nat → Nat → Nat → Option (BitVec 32) × Nat
  | 0, _, _, validAddr => (none, validAddr)
  | units + 1, opPageAddr, checkSize, validAddr =>
      let readSize := min checkSize 16
      let opPageAddr := opPageAddr - readSize
      match readWords m opPageAddr (readSize / 4) with
      | [] => (none, validAddr)
      | checkValid :: rest =>
        if checkValid ≠ idleWord then
          match frameCountInUnit checkValid (opPageAddr + 4) rest with
          | some (frameCount, validAddr) => (some frameCount, validAddr)
          | none => frameCountUnits m units opPageAddr (checkSize - readSize) validAddr
        else frameCountUnits m units opPageAddr (checkSize - readSize) opPageAddr

/-- `nv_nwkFrameCountSearch`: the last count of the sector, and the address of the next. -/
def nvNwkFrameCountSearch (m : Mem) (opSect : Nat) : Option (BitVec 32) × Nat :=
  let sizeUsed := framecountNumPerSect * 4
  let pageUsed := (sizeUsed + flashPageSize - 1) / flashPageSize
  let (opPageAddr, checkSize, validAddr) := frameCountPage m opSect (pageUsed - 1)
    (moduleSectEnd .nwkFrameCount opSect - flashPageSize) (framecountPayloadStart opSect)
  frameCountUnits m ((checkSize + 15) / 16) opPageAddr checkSize validAddr

/-! ### Saving and reading -/

/-- The erasing of both sectors. -/
def frameCountErase : Nat → Driver Unit
  | 0 => return ()
  | j + 1 => do
      frameCountErase j
      flashErase (modulesStartAddr .nwkFrameCount + j * flashSectorSize)

/-- The end of `nv_nwkFrameCountSaveToFlashHandler`, after the count is written: a new sector gets its header, and the
one before it is given up. -/
def frameCountHeader (forceChgSec : Option Nat) (sectorUpdate : Bool) (oldSect opSect wAddr : Nat) (ret : NvSts) :
    Driver NvSts := do
  if sectorUpdate ∨ wAddr = framecountPayloadStart opSect then
    let id := Module.nwkFrameCount
    if ← flashWriteWithCheck (moduleSectStart id opSect) (usedSectInfo nvSectorValidReadyCheckCrc id opSect).toBytes then
      if sectorUpdate ∨ forceChgSec.isSome then
        let oldSect := forceChgSec.getD oldSect
        if ← flashWriteWithCheck (moduleSectStart id oldSect) (bytes16 nvSectorInvalid) then
          let _ ← flashWriteWithCheck (moduleSectStart id opSect) (bytes16 nvSectorValidCheckCrc)
          return ret
        else return .checkSumError
      else return ret
    else return .checkSumError
  else return ret

/-- The sector to write to: the one that follows `errSect`, erased, or the one in use, or the first one when none is. -/
def frameCountSector (forceChgSec : Option Nat) : Driver (Nat × NvSts) := do
  let id := Module.nwkFrameCount
  match forceChgSec with
  | some errSect =>
    let opSect := (errSect + 1) % 2
    nvSectorErase id opSect (nvRealSectNum id)
    return (opSect, .succ)
  | none =>
    match ← nvSectorRead id with
    | some opSect => return (opSect, .succ)
    | none =>
      frameCountErase moduleSectorNum
      return (0, .itemNotFound)

/-- The count is written where the search ends, or behind the last one in the other sector when this one is full. -/
def frameCountWrite (forceChgSec : Option Nat) (frameCount : BitVec 32) (oldSect : Nat) (ret : NvSts) : Driver NvSts := do
  let id := Module.nwkFrameCount
  let m ← Program.get
  match nvNwkFrameCountSearch m oldSect with
  | (some lastFrmCnt, wAddr) =>
    if wAddr = moduleSectEnd id oldSect then
      let opSect := (oldSect + 1) % 2
      flashErase (modulesStartAddr id + opSect * flashSectorSize)
      if ← flashWriteWithCheck (framecountPayloadStart opSect) (bytes32 lastFrmCnt) then
        let wAddr := framecountPayloadStart opSect + 4
        if ← flashWriteWithCheck wAddr (bytes32 frameCount) then
          frameCountHeader forceChgSec true oldSect opSect wAddr ret
        else return .checkSumError
      else return .checkSumError
    else
      if ← flashWriteWithCheck wAddr (bytes32 frameCount) then frameCountHeader forceChgSec false oldSect oldSect wAddr ret
      else return .checkSumError
  | (none, wAddr) =>
    if ← flashWriteWithCheck wAddr (bytes32 frameCount) then frameCountHeader forceChgSec false oldSect oldSect wAddr ret
    else return .checkSumError

/-- `nv_nwkFrameCountSaveToFlashHandler`, with `errSect` when a change of sectors is forced. -/
def nvNwkFrameCountSaveToFlashHandler (forceChgSec : Option Nat) (frameCount : BitVec 32) : Driver NvSts := do
  let (oldSect, ret) ← frameCountSector forceChgSec
  frameCountWrite forceChgSec frameCount oldSect ret

/-- `nv_nwkFrameCountSaveToFlash`. The variable that is to hold the sector at fault is never set. -/
def nvNwkFrameCountSaveToFlash (frameCount : BitVec 32) : Driver NvSts := do
  match ← nvNwkFrameCountSaveToFlashHandler none frameCount with
  | .checkSumError => do
      let _ ← nvNwkFrameCountSaveToFlashHandler (some 0xff) frameCount
      return .succ
  | _ => return .succ

/-- `nv_nwkFrameCountFromFlash`. A last count that is too far from the one before it is not believed. -/
def nvNwkFrameCountFromFlash : Driver (Option (BitVec 32)) := do
  match ← nvSectorRead .nwkFrameCount with
  | none => return none
  | some opSect =>
    let m ← Program.get
    match nvNwkFrameCountSearch m opSect with
    | (none, _) => return none
    | (some lastFrmCnt, wAddr) =>
      if framecountPayloadStart opSect + 8 < wAddr ∧ updateFramecountThres < read32 m (wAddr - 4) - read32 m (wAddr - 8) then
        let frameCount := read32 m (wAddr - 8) + updateFramecountThres
        let _ ← nvNwkFrameCountSaveToFlashHandler (some opSect) frameCount
        return some frameCount
      else return some lastFrmCnt

/-! ### What the search finds -/

/-- The counts lie one behind the other from the start of the sector, and the rest of it is erased. -/
structure Records (m : Mem) (n : Nat) (counts : List (BitVec 32)) : Prop where
  fits : counts.length ≤ framecountNumPerSect
  word : ∀ i (h : i < counts.length), read32 m (framecountPayloadStart n + 4 * i) = counts[i]
  written : idleWord ∉ counts
  free : Erased m (framecountPayloadStart n + 4 * counts.length) (4 * (framecountNumPerSect - counts.length))

section Search

variable {m : Mem} {n sect len : Nat} {counts : List (BitVec 32)}

theorem read32_erased {a : Nat} (h : Erased m a 4) : read32 m a = idleWord := by
  rw [read32, h a (by omega) (by omega), h (a + 1) (by omega) (by omega), h (a + 2) (by omega) (by omega),
    h (a + 3) (by omega) (by omega)]
  rfl

theorem readWords_succ (m : Mem) (a k : Nat) : readWords m a (k + 1) = read32 m a :: readWords m (a + 4) k := by
  unfold readWords
  rw [List.range_succ_eq_map, List.map_cons, List.map_map]
  refine congrArg _ (List.map_congr_left fun i _ => ?_)
  show read32 m (a + 4 * (i + 1)) = read32 m (a + 4 + 4 * i)
  rw [Nat.mul_succ, Nat.add_comm (4 * i), Nat.add_assoc]

/-- The words of the sector that are written, counted from its header. -/
def WrittenUpTo (m : Mem) (sect len : Nat) : Prop :=
  ∀ j, 0 < j → j < 1024 → (read32 m (sect + 4 * j) ≠ idleWord ↔ j ≤ len)

theorem frameCountInUnit_eq (hw : WrittenUpTo m sect len) (k : Nat) {j : Nat} (hj : 0 < j) (hlen : j ≤ len)
    (hk : j + k + 1 < 1024) :
    frameCountInUnit (read32 m (sect + 4 * j)) (sect + 4 * (j + 1)) (readWords m (sect + 4 * (j + 1)) (k + 1)) =
      some (read32 m (sect + 4 * min len (j + k + 1)), sect + 4 * (min len (j + k + 1) + 1)) := by
  induction k generalizing j with
  | zero =>
      have hnext := hw (j + 1) (Nat.succ_pos j) hk
      rw [readWords_succ, frameCountInUnit]
      by_cases hin : j + 1 ≤ len
      · rw [if_pos (hnext.mpr hin), if_pos (show readWords m _ 0 = [] from rfl), Nat.min_eq_right hin]
        rfl
      · rw [if_neg (mt hnext.mp hin), Nat.min_eq_left (by omega), show j = len by omega]
  | succ k ih =>
      have hnext := hw (j + 1) (Nat.succ_pos j) (by omega)
      rw [readWords_succ, frameCountInUnit]
      by_cases hin : j + 1 ≤ len
      · have hmore : readWords m (sect + 4 * (j + 1) + 4) (k + 1) ≠ [] := by
          rw [readWords_succ]
          exact List.cons_ne_nil _ _
        have hrest := ih (Nat.succ_pos j) hin (by omega)
        rw [if_pos (hnext.mpr hin), if_neg hmore]
        rwa [show j + 1 + k + 1 = j + (k + 1) + 1 by omega] at hrest
      · rw [if_neg (mt hnext.mp hin), Nat.min_eq_left (by omega), show j = len by omega]

theorem frameCountUnits_eq (hw : WrittenUpTo m sect len) (units : Nat) {lo hi : Nat} (validAddr : Nat) (hlo : 0 < lo)
    (hle : lo ≤ hi) (hhi : hi ≤ 1024) (hunits : units = (hi - lo + 3) / 4) (hodd : (hi - lo) % 4 ≠ 1) (hlen : len < hi) :
    frameCountUnits m units (sect + 4 * hi) (4 * (hi - lo)) validAddr =
      if len < lo then (none, if hi = lo then validAddr else sect + 4 * lo)
      else (some (read32 m (sect + 4 * len)), sect + 4 * (len + 1)) := by
  induction units generalizing hi validAddr with
  | zero =>
      have heq : hi = lo := by omega
      rw [frameCountUnits, if_pos (by omega), if_pos heq]
  | succ units ih =>
      obtain ⟨k, hk⟩ : ∃ k, min (4 * (hi - lo)) 16 = 4 * (k + 2) := ⟨min (hi - lo) 4 - 2, by omega⟩
      have hbase : sect + 4 * hi - min (4 * (hi - lo)) 16 = sect + 4 * (hi - (k + 2)) := by omega
      have hwords : min (4 * (hi - lo)) 16 / 4 = k + 1 + 1 := by omega
      have hfirst := hw (hi - (k + 2)) (by omega) (by omega)
      rw [frameCountUnits, hbase, hwords, readWords_succ]
      dsimp only
      by_cases hin : hi - (k + 2) ≤ len
      · have hunit := frameCountInUnit_eq hw k (j := hi - (k + 2)) (by omega) hin (by omega)
        have hmin : min len (hi - (k + 2) + k + 1) = len := by omega
        rw [hmin] at hunit
        rw [if_pos (hfirst.mpr hin), show sect + 4 * (hi - (k + 2)) + 4 = sect + 4 * (hi - (k + 2) + 1) by omega, hunit,
          if_neg (by omega)]
      · have hsize : 4 * (hi - lo) - min (4 * (hi - lo)) 16 = 4 * (hi - (k + 2) - lo) := by omega
        rw [if_neg (mt hfirst.mp hin), hsize, ih _ (by omega) (by omega) (by omega) (by omega) (by omega)]
        by_cases hbelow : len < lo
        · rw [if_pos hbelow, if_pos hbelow, if_neg (show hi ≠ lo by omega)]
          by_cases hend : hi - (k + 2) = lo
          · rw [if_pos hend, hend]
          · rw [if_neg hend]
        · rw [if_neg hbelow, if_neg hbelow]

/-- The page that is looked into holds the last word, or is the first. -/
theorem frameCountPage_eq (hw : WrittenUpTo m (moduleSectStart .nwkFrameCount n) len) (hn : n < 2) (pages : Nat)
    (hpages : pages < 16) (hlen : len < 64 * (pages + 1)) (validAddr : Nat) :
    ∃ lo hi v, frameCountPage m n pages (moduleSectStart .nwkFrameCount n + 256 * pages) validAddr =
        (moduleSectStart .nwkFrameCount n + 4 * hi, 4 * (hi - lo), v) ∧
      0 < lo ∧ lo < hi ∧ hi ≤ 1024 ∧ (hi - lo) % 4 ≠ 1 ∧ len < hi ∧ (lo ≤ len ∨ lo = 1) := by
  have haligned := (layout .nwkFrameCount hn).aligned
  unfold flashSectorSize at haligned
  induction pages generalizing validAddr with
  | zero =>
      refine ⟨1, 64, validAddr, ?_, by omega, by omega, by omega, by omega, by omega, Or.inr rfl⟩
      rw [frameCountPage]
      refine Prod.ext ?_ rfl
      unfold framecountPayloadStart align4 sizeofSectInfo flashPageSize
      dsimp only
      omega
  | succ pages ih =>
      have hpage := hw (64 * (pages + 1)) (by omega) (by omega)
      have haddr : moduleSectStart .nwkFrameCount n + 4 * (64 * (pages + 1)) =
          moduleSectStart .nwkFrameCount n + 256 * (pages + 1) := by omega
      rw [haddr] at hpage
      rw [frameCountPage]
      by_cases hin : 64 * (pages + 1) ≤ len
      · refine ⟨64 * (pages + 1), 64 * (pages + 2), validAddr, ?_, by omega, by omega, by omega, by omega, by omega, Or.inl hin⟩
        rw [if_pos (hpage.mpr hin)]
        have hsize : 4 * (64 * (pages + 2) - 64 * (pages + 1)) = flashPageSize := by
          unfold flashPageSize
          omega
        rw [hsize]
        refine Prod.ext ?_ rfl
        unfold flashPageSize
        dsimp only
        omega
      · have hback : moduleSectStart .nwkFrameCount n + 256 * (pages + 1) - flashPageSize =
            moduleSectStart .nwkFrameCount n + 256 * pages := by
          unfold flashPageSize
          omega
        rw [if_neg (mt hpage.mp hin), hback]
        exact ih (by omega) (by omega) _

theorem payloadStart_eq (hn : n < 2) : framecountPayloadStart n = moduleSectStart .nwkFrameCount n + 4 := by
  have haligned := (layout .nwkFrameCount hn).aligned
  unfold flashSectorSize at haligned
  unfold framecountPayloadStart align4 sizeofSectInfo
  omega

theorem Records.writtenUpTo (h : Records m n counts) (hn : n < 2) :
    WrittenUpTo m (moduleSectStart .nwkFrameCount n) counts.length := by
  have hstart := payloadStart_eq hn
  intro j hpos hj
  have haddr : moduleSectStart .nwkFrameCount n + 4 * j = framecountPayloadStart n + 4 * (j - 1) := by omega
  rw [haddr]
  by_cases hin : j ≤ counts.length
  · rw [h.word (j - 1) (by omega)]
    exact ⟨fun _ => hin, fun _ heq => h.written (heq ▸ List.getElem_mem _)⟩
  · have hfits := h.fits
    have hnum : framecountNumPerSect = 1023 := rfl
    rw [read32_erased (h.free.mono (by omega) (by omega))]
    exact ⟨fun hne => absurd rfl hne, fun hle => absurd hle hin⟩

/-- The search finds the last count, and where the next one goes. -/
theorem nvNwkFrameCountSearch_eq (h : Records m n counts) (hn : n < 2) :
    nvNwkFrameCountSearch m n = (counts.getLast?, framecountPayloadStart n + 4 * counts.length) := by
  have hw := h.writtenUpTo hn
  have hfits := h.fits
  have hnum : framecountNumPerSect = 1023 := rfl
  have hstart := payloadStart_eq hn
  have hend := (layout .nwkFrameCount hn).sectEnd
  have hsize : nvSectorSize .nwkFrameCount = 4096 := rfl
  obtain ⟨lo, hi, v, hpage, hlo, hlt, hhi, hodd, hlen, hcases⟩ :=
    frameCountPage_eq hw hn 15 (by omega) (by omega) (framecountPayloadStart n)
  have hlast : moduleSectEnd .nwkFrameCount n - flashPageSize = moduleSectStart .nwkFrameCount n + 256 * 15 := by
    unfold flashPageSize
    omega
  have hpages : (framecountNumPerSect * 4 + flashPageSize - 1) / flashPageSize - 1 = 15 := rfl
  unfold nvNwkFrameCountSearch
  dsimp only
  rw [hpages, hlast, hpage]
  dsimp only
  rw [frameCountUnits_eq hw _ v hlo hlt.le hhi (by omega) hodd hlen, if_neg hlt.ne', hstart]
  rcases Nat.eq_zero_or_pos counts.length with hzero | hpos
  · rw [if_pos (by omega), List.eq_nil_of_length_eq_zero hzero]
    have hone : lo = 1 := by omega
    rw [hone]
    rfl
  · have hword := h.word (counts.length - 1) (by omega)
    have haddr : framecountPayloadStart n + 4 * (counts.length - 1) =
        moduleSectStart .nwkFrameCount n + 4 * counts.length := by omega
    have hlast? : counts.getLast? = some counts[counts.length - 1] := by
      rw [List.getLast?_eq_getElem?]
      exact List.getElem?_eq_getElem _
    rw [haddr] at hword
    rw [if_neg (by omega), hlast?, hword]
    exact Prod.ext rfl (by dsimp only; omega)

end Search

end Watermeter.Nv
