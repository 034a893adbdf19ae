import Watermeter.Application

/-! The OTA client of the SDK over the application: what it keeps of an image in RAM and in `NV_MODULE_OTA`,
when it erases, writes, saves and resumes, and which messages it sends to the application. -/

namespace Watermeter

open NorFlash Transition

def zclStaInvalidImage : BitVec 8 := 0x96#8

/-- `zcl_attr_imageUpgradeStatus`: no update, blocks are being asked for, or all of them are there and the
client waits for the time to upgrade. -/
inductive ImageUpgradeStatus
  | normal
  | downloadInProgress
  | downloadComplete
  deriving DecidableEq, Repr

/-- The image the client knows of: its size and version, `zcl_attr_fileOffset`, and the two fields of
`otaClientInfo` that say how far it got in the file and in the image. -/
structure Download where
  downloadImageSize : Nat
  downloadFileVer : BitVec 32
  fileOffset : Nat
  offset : Nat
  otaElementPos : Nat
  deriving DecidableEq, Repr

structure OtaClient where
  imageUpgradeStatus : ImageUpgradeStatus
  /-- `OTA_EVT_START` has been sent for the download. -/
  started : Bool
  download : Option Download
  /-- `NV_ITEM_OTA_HDR_SERVERINFO`: size and version. -/
  hdrServerInfo : Option (Nat × BitVec 32)
  /-- `NV_ITEM_OTA_CODE`: offset and position. -/
  otaCode : Option (Nat × Nat)
  deriving DecidableEq, Repr

namespace OtaClient

/-- The client without an image: `NV_MODULE_OTA` is reset and `otaClientInfo` cleared, as `app_ota_abort` and
`ota_upgradeComplete` do it. -/
def cleared : OtaClient := ⟨.normal, false, none, none, none⟩

/-- `ota_init` and `ota_clientInfoRecover`. -/
def recovered (c : OtaClient) : OtaClient :=
  { imageUpgradeStatus := .normal
    started := false
    download :=
      match c.hdrServerInfo, c.otaCode with
      | some (size, ver), some (offset, pos) => some ⟨size, ver, offset, offset, pos⟩
      | _, _ => none
    hdrServerInfo := c.hdrServerInfo
    otaCode := c.otaCode }

/-- The download is under way, or will be resumed when the server offers the image again. -/
def Live (c : OtaClient) (d : Download) : Prop :=
  c.download = some d ∧ (c.imageUpgradeStatus ≠ .normal ∨ 4096 < d.fileOffset)

/-- A new image from offset 0. `otaElementPos` is set to 0 with the header of the element, before it is used. -/
def accepted (c : OtaClient) (imageSize : Nat) (fileVer : BitVec 32) : OtaClient :=
  let offset := match c.download with
    | some d => d.offset
    | none => 0
  { c with
    imageUpgradeStatus := .downloadInProgress
    started := false
    download := some ⟨imageSize, fileVer, 0, offset, 0⟩ }

/-- `ota_saveUpdateInfo2NV`. -/
def saveUpdateInfo (c : OtaClient) : OtaClient :=
  match c.download with
  | some d => { c with otaCode := some (d.offset, d.otaElementPos) }
  | none => { c with otaCode := some (0, 0) }

end OtaClient

/-- The supply at the driver calls of a step, the reading `app_otaProcessMsgHandler` takes, and what a start of
the MCU in the step finds. -/
structure Surroundings where
  supply : Supply
  adcData : Nat
  up : PowerUp

inductive SystemEvent
  | countersHandler (pins : Pins)
  | zclWriteReqCmd (endPoint : BitVec 8) (clusterId : BitVec 16) (attrList : List WriteRec)
  /-- The device is switched off and on, or reset by a long press of the button. -/
  | reset
  /-- The device is reset to factory new by five clicks of the button. -/
  | factoryReset
  /-- The server offers an image; whether the client knows the server's IEEE address, and whether the checksum
  of an image that is already there is right. -/
  | queryNextImageRsp (imageSize : Nat) (fileVer : BitVec 32) (addrKnown crcRight : Bool)
  /-- The answer to the request for the server's IEEE address, or none. -/
  | ieeeAddrRsp (success : Bool)
  /-- Bytes of the file before the image: headers, with the last of them the header is saved. -/
  | headerBytes (n : Nat) (last : Bool)
  /-- A block of the image. -/
  | imageBlockRsp (data : List Byte)
  /-- The last block has been checked. -/
  | downloadComplete
  | saveUpdateInfo2NV
  /-- `ota_upgradeComplete` with a status that is not success: a timeout, a bad block, an abort of the server. -/
  | upgradeFailed (status : BitVec 8)
  /-- The time to upgrade has come. -/
  | upgradeEnd

/-- The application, the client, and the bytes the server has sent, by their place in the image (a history
variable). -/
structure OtaSystem extends App where
  client : OtaClient
  received : Nat → Byte

namespace OtaSystem

/-- The client sends `OTA_EVT_START`; the application gives the download up at a low supply. -/
def start (w : Surroundings) (c : OtaClient) : OtaClient × List AppEvent :=
  (if w.adcData < (maxVbatMv - 100 - minVbatMv) / 2 + minVbatMv then .cleared else { c with started := true },
    [.otaProcessMsg w.adcData .otaEvtStart zclStaSuccess w.up])

/-- `ota_upgradeComplete` with another status than success. -/
def fail (w : Surroundings) (status : BitVec 8) : OtaClient × List AppEvent :=
  (.cleared, [.otaProcessMsg w.adcData .otaEvtComplete status w.up])

/-- `ota_upgradeComplete` with success. If the MCU is reset, `ota_init` finds `NV_MODULE_OTA` empty. -/
def succeed (w : Surroundings) (s : OtaSystem) : OtaClient × List AppEvent :=
  (if s.resets w.supply (.otaProcessMsg w.adcData .otaEvtComplete zclStaSuccess w.up) then .cleared
    else { s.client with imageUpgradeStatus := .normal, hdrServerInfo := none, otaCode := none },
    [.otaProcessMsg w.adcData .otaEvtComplete zclStaSuccess w.up])

/-- The download from offset 0: the sectors of the image are erased, and it starts as soon as the server's
address is known. -/
def fromStart (w : Surroundings) (c : OtaClient) (imageSize : Nat) (fileVer : BitVec 32) (addrKnown : Bool) :
    OtaClient × List AppEvent :=
  if addrKnown then
    let (c, events) := start w (c.accepted imageSize fileVer)
    (c, .imageAccepted imageSize :: events)
  else (c.accepted imageSize fileVer, [.imageAccepted imageSize])

/-- `ota_queryNextImageRspHandler`, for an image of the device's type and another version. -/
def queryNextImageRsp (w : Surroundings) (s : OtaSystem) (imageSize : Nat) (fileVer : BitVec 32)
    (addrKnown crcRight : Bool) : OtaClient × List AppEvent :=
  if s.client.imageUpgradeStatus = .downloadInProgress then (s.client, [])
  else if flashOtaImageMaxSize < imageSize then (s.client, [])
  else
    match s.client.download with
    | some d =>
      if d.downloadImageSize = imageSize ∧ d.downloadFileVer = fileVer ∧ 4096 < d.fileOffset then
        if d.offset = d.downloadImageSize then
          if crcRight then s.succeed w else fromStart w s.client imageSize fileVer addrKnown
        else start w { s.client with imageUpgradeStatus := .downloadInProgress }
      else fromStart w s.client imageSize fileVer addrKnown
    | none => fromStart w s.client imageSize fileVer addrKnown

/-- The first byte of the start-up flag, where the block reaches it, is the right one. -/
def flagByteRight (pos : Nat) (data : List Byte) : Bool :=
  if pos ≤ flashTlnkFlagOffset ∧ flashTlnkFlagOffset < pos + data.length then
    data.getD (flashTlnkFlagOffset - pos) 0#8 == tlImageStartFlag
  else true

/-- The block is programmed at the position of the download and read back as it was sent. -/
def written (w : Surroundings) (s : OtaSystem) (pos : Nat) (data : List Byte) : Bool :=
  (flashWriteWithCheck (clientSupply w.supply 0) s.nvm.flash (imageBase s.mcuBootAddr + pos) (withheld pos data)).1

/-- `ota_imageBlockRspHandler` and `ota_imageDataProcess`, for bytes of the image. -/
def imageBlockRsp (w : Surroundings) (s : OtaSystem) (data : List Byte) : OtaClient × List AppEvent :=
  match s.client.download with
  | some d =>
    if s.client.imageUpgradeStatus = .downloadInProgress ∧ s.client.started = true ∧
        d.otaElementPos + data.length ≤ d.downloadImageSize then
      if flagByteRight d.otaElementPos data then
        if s.written w d.otaElementPos data then
          ({ s.client with
              download := some { d with
                fileOffset := d.fileOffset + data.length
                offset := d.fileOffset + data.length
                otaElementPos := d.otaElementPos + data.length } }, [.imageBlock d.otaElementPos data])
        else (.cleared, [.imageBlock d.otaElementPos data,
          .otaProcessMsg w.adcData .otaEvtComplete zclStaInvalidImage w.up])
      else fail w zclStaInvalidImage
    else (s.client, [])
  | none => (s.client, [])

/-- The bytes of a header count for the offset in the file, and the complete header is saved. -/
def headerBytes (c : OtaClient) (n : Nat) (last : Bool) : OtaClient :=
  match c.download with
  | some d =>
    if c.imageUpgradeStatus = .downloadInProgress ∧ c.started = true then
      { c with
        download := some { d with fileOffset := d.fileOffset + n }
        hdrServerInfo := if last then some (d.downloadImageSize, d.downloadFileVer) else c.hdrServerInfo }
    else c
  | none => c

/-- What the client makes of an event, and the events of the application that come of it. -/
def respond (w : Surroundings) (s : OtaSystem) : SystemEvent → OtaClient × List AppEvent
  | .countersHandler pins => (s.client, [.countersHandler pins])
  | .zclWriteReqCmd endPoint clusterId attrList => (s.client, [.zclWriteReqCmd endPoint clusterId attrList])
  | .reset => (s.client.recovered, [.userAppInit w.up])
  | .factoryReset => (.cleared, [.userAppInit w.up])
  | .queryNextImageRsp imageSize fileVer addrKnown crcRight =>
    s.queryNextImageRsp w imageSize fileVer addrKnown crcRight
  | .ieeeAddrRsp success =>
    if s.client.imageUpgradeStatus = .downloadInProgress ∧ s.client.started = false then
      if success then start w s.client else fail w zclStaAbort
    else (s.client, [])
  | .headerBytes n last => (headerBytes s.client n last, [])
  | .imageBlockRsp data => s.imageBlockRsp w data
  | .downloadComplete =>
    (if s.client.imageUpgradeStatus = .downloadInProgress ∧ s.client.started = true then
      { s.client with imageUpgradeStatus := .downloadComplete } else s.client, [])
  | .saveUpdateInfo2NV => (s.client.saveUpdateInfo, [])
  | .upgradeFailed status => if status = zclStaSuccess then (s.client, []) else fail w status
  | .upgradeEnd => if s.client.imageUpgradeStatus = .downloadComplete then s.succeed w else (s.client, [])

/-- The application before the events: a reset to factory new erases its NV item as well. -/
def before (s : OtaSystem) : SystemEvent → App
  | .factoryReset => { s.toApp with nvm := { s.nvm with userCfg := none } }
  | _ => s.toApp

/-- The bytes of a block take their places in the image. -/
def receive (s : OtaSystem) : SystemEvent → Nat → Byte
  | .imageBlockRsp data =>
    match s.client.download with
    | some d => fun i =>
      if d.otaElementPos ≤ i ∧ i < d.otaElementPos + data.length then data.getD (i - d.otaElementPos) 0#8
      else s.received i
    | none => s.received
  | _ => s.received

def step (s : OtaSystem) (e : Surroundings × SystemEvent) : OtaSystem :=
  { toApp := run App.step (s.before e.2) ((s.respond e.1 e.2).2.map (Prod.mk e.1.supply))
    client := (s.respond e.1 e.2).1
    received := s.receive e.2 }

end OtaSystem

end Watermeter
