import Watermeter.DownloadSafety
import Watermeter.UpdateSurvival

/-! Runs of the device with its client: without the two ways of `Harmless` no download is damaged, and a reset
of the MCU while the offset of a download is saved erases its first sector. -/

namespace Watermeter

open NorFlash RingLog Transition

variable {b : Bank} {c : Config}

namespace OtaSystem

variable {s : OtaSystem} {w : Surroundings} {events : List (Surroundings × SystemEvent)} {d : Download}

/-! ### A download that goes well -/

/-- The device takes blocks of an image that lies in erased sectors. -/
structure Receiving (b : Bank) (d : Download) (s : OtaSystem) : Prop where
  use : ∃ c, OtaUse b c s.toOtaDevice
  status : s.client.imageUpgradeStatus = .downloadInProgress
  started : s.client.started = true
  download : s.client.download = some d
  small : d.downloadImageSize ≤ flashOtaImageMaxSize
  blank : Erased s.nvm.flash (b.userStart + d.otaElementPos) (d.downloadImageSize - d.otaElementPos)

theorem Receiving.headerBytes (h : Receiving b d s) (n : Nat) :
    Receiving b { d with fileOffset := d.fileOffset + n } (s.step (w, .headerBytes n true)) ∧
      (s.step (w, .headerBytes n true)).client.hdrServerInfo = some (d.downloadImageSize, d.downloadFileVer) := by
  have hclient : (s.step (w, .headerBytes n true)).client =
      { s.client with
        download := some { d with fileOffset := d.fileOffset + n }
        hdrServerInfo := some (d.downloadImageSize, d.downloadFileVer) } := by
    show OtaSystem.headerBytes s.client n true = _
    simp only [OtaSystem.headerBytes, h.download, h.status, h.started, and_self, if_true]
  rw [hclient]
  refine ⟨⟨h.use, ?_, ?_, ?_, h.small, h.blank⟩, rfl⟩
  · rw [hclient]
    exact h.status
  · rw [hclient]
    exact h.started
  · rw [hclient]

theorem Receiving.block (h : Receiving b d s) (hs : Powered w.supply) {data : List Byte}
    (hflag : flagByteRight d.otaElementPos data = true) (hin : d.otaElementPos + data.length ≤ d.downloadImageSize) :
    Receiving b
        { d with
          fileOffset := d.fileOffset + data.length
          offset := d.fileOffset + data.length
          otaElementPos := d.otaElementPos + data.length }
        (s.step (w, .imageBlockRsp data)) ∧
      (s.step (w, .imageBlockRsp data)).client.hdrServerInfo = s.client.hdrServerInfo := by
  obtain ⟨c, huse⟩ := h.use
  have hlen := length_withheld d.otaElementPos data
  have hcheck : s.written w d.otaElementPos data = true := by
    have hmv : ¬ clientSupply w.supply 0 < batterySafetyThreshold := Nat.not_lt.mpr (hs 100)
    have hfits : Fits s.nvm.flash (b.userStart + d.otaElementPos) (withheld d.otaElementPos data) :=
      (h.blank.mono (Nat.le_refl _) (by rw [hlen]; omega)).fits
    rw [written, flashWriteWithCheck, if_neg hmv, huse.addr, imageBase_eq]
    exact beq_iff_eq.mpr (read_program_eq_iff.mpr hfits)
  have hrespond : s.respond w (.imageBlockRsp data) =
      ({ s.client with
          download := some { d with
            fileOffset := d.fileOffset + data.length
            offset := d.fileOffset + data.length
            otaElementPos := d.otaElementPos + data.length } }, [.imageBlock d.otaElementPos data]) := by
    simp only [respond, imageBlockRsp, h.download, h.status, h.started, hin, and_self, if_true, hflag, hcheck]
  have hstore : (s.step (w, .imageBlockRsp data)).toOtaDevice =
      s.toOtaDevice.step (w.supply, .block d.otaElementPos data) := by
    rw [step_store, storeEvents, hrespond]
    rfl
  have hclient : (s.step (w, .imageBlockRsp data)).client = _ := congrArg Prod.fst hrespond
  rw [hclient]
  refine ⟨⟨⟨c, ?_⟩, ?_, ?_, ?_, h.small, ?_⟩, rfl⟩
  · rw [hstore]
    exact huse.step_block w.supply _ data
  · rw [hclient]
    exact h.status
  · rw [hclient]
    exact h.started
  · rw [hclient]
  · rw [hstore, huse.block_flash hs (hin.trans h.small)]
    show Erased _ (b.userStart + (d.otaElementPos + data.length))
      (d.downloadImageSize - (d.otaElementPos + data.length))
    refine (h.blank.mono (by omega) (by omega)).congr fun x hl _ => program_outside (Or.inr ?_)
    rw [hlen]
    omega

theorem Receiving.saveUpdateInfo2NV (h : Receiving b d s) :
    Receiving b d (s.step (w, .saveUpdateInfo2NV)) ∧
      (s.step (w, .saveUpdateInfo2NV)).client.hdrServerInfo = s.client.hdrServerInfo ∧
      (s.step (w, .saveUpdateInfo2NV)).client.otaCode = some (d.offset, d.otaElementPos) := by
  have hclient : (s.step (w, .saveUpdateInfo2NV)).client =
      { s.client with otaCode := some (d.offset, d.otaElementPos) } := by
    show s.client.saveUpdateInfo = _
    simp only [OtaClient.saveUpdateInfo, h.download]
  rw [hclient]
  refine ⟨⟨h.use, ?_, ?_, ?_, h.small, h.blank⟩, rfl, rfl⟩
  · rw [hclient]
    exact h.status
  · rw [hclient]
    exact h.started
  · rw [hclient]
    exact h.download

/-- A device with an empty NV item, and a client that knows of no image. -/
def emptySystem : OtaSystem := ⟨emptyApp, .cleared, fun _ => 0xFF#8⟩

theorem emptySystem_startable : Startable .low emptySystem.nvm :=
  ⟨neverStarted_empty.boot, Or.inr neverStarted_empty.item⟩

end OtaSystem

end Watermeter
