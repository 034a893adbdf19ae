import Watermeter.CrashLogic
import Watermeter.OtaImage
import Watermeter.PyStruct

/-! The NV driver of `drv_nv.c`. A module of items has two sectors, of which one is in use: an index of the items from
its start and the items themselves behind. An item is never changed in place: it is written anew into the next slot of
the index, and when a sector is full what is still valid moves to the other one. The supply is taken to be good. -/

namespace Watermeter.Nv

open NorFlash CrashLogic

/-! ### The flash driver -/

/-- A command to the flash; a write stays in one page. -/
inductive FlashOp
  | erase (addr : Nat)
  | write (addr : Nat) (buf : List Byte)
  deriving DecidableEq

instance : Medium Mem FlashOp where
  apply m
    | .erase addr => flashEraseSector m addr
    | .write addr buf => program m addr buf

abbrev Driver := Program Mem FlashOp

def flashErase (addr : Nat) : Driver Unit := Program.perform (.erase addr)

/-- The loop of `flash_write_page`: a command for each page. -/
def flashWritePages : Nat → Nat → List Byte → Driver Unit
  | 0, _, _ => return ()
  | pages + 1, addr, buf => do
      let nw := flashPageSize - addr % flashPageSize
      Program.perform (.write addr (buf.take nw))
      flashWritePages pages (addr + nw) (buf.drop nw)

def flashWrite (addr : Nat) (buf : List Byte) : Driver Unit :=
  flashWritePages ((addr % flashPageSize + buf.length - 1) / flashPageSize + 1) addr buf

/-- `flash_writeWithCheck`: what was written is compared. -/
def flashWriteWithCheck (addr : Nat) (buf : List Byte) : Driver Bool := do
  flashWrite addr buf
  let m ← Program.get
  return read m addr buf.length == buf

/-! ### The structures -/

/-- `nv_sect_info_t`. -/
structure SectInfo where
  usedFlag : BitVec 16
  idName : Byte
  opSect : Byte
  deriving DecidableEq

/-- `nv_info_idx_t`. -/
structure InfoIdx where
  offset : Nat
  size : Nat
  itemId : Byte
  usedState : Byte
  deriving DecidableEq

/-- `itemHdr_t`. -/
structure ItemHdr where
  checkSum : BitVec 32
  size : Nat
  itemId : Byte
  used : Byte
  deriving DecidableEq

def sizeofSectInfo : Nat := 4

def sizeofInfoIdx : Nat := 8

def sizeofItemHdr : Nat := 8

def SectInfo.toBytes (s : SectInfo) : List Byte := bytes16 s.usedFlag ++ [s.idName, s.opSect]

/-- The bytes of an entry of the index that its checksum covers: all but the state. -/
def InfoIdx.covered (idx : InfoIdx) : List Byte := PyStruct.digits 4 idx.offset ++ PyStruct.digits 2 idx.size ++ [idx.itemId]

def InfoIdx.toBytes (idx : InfoIdx) : List Byte := idx.covered ++ [idx.usedState]

/-- The four bytes of a header that its checksum covers, from `size` on. -/
def ItemHdr.covered (hdr : ItemHdr) : List Byte := PyStruct.digits 2 hdr.size ++ [hdr.itemId, hdr.used]

def ItemHdr.toBytes (hdr : ItemHdr) : List Byte := bytes32 hdr.checkSum ++ hdr.covered

def readSectInfo (m : Mem) (a : Nat) : SectInfo := ⟨u16 (m a) (m (a + 1)), m (a + 2), m (a + 3)⟩

def readInfoIdx (m : Mem) (a : Nat) : InfoIdx :=
  ⟨PyStruct.fromBytes (read m a 4), PyStruct.fromBytes (read m (a + 4) 2), m (a + 6), m (a + 7)⟩

def readItemHdr (m : Mem) (a : Nat) : ItemHdr :=
  ⟨read32 m a, PyStruct.fromBytes (read m (a + 4) 2), m (a + 6), m (a + 7)⟩

def nvSectorValid : BitVec 16 := 0x5A5A#16
def nvSectorValidCheckCrc : BitVec 16 := 0x7A7A#16
def nvSectorValidReadyCheckCrc : BitVec 16 := 0xFAFA#16
def nvSectorInvalid : BitVec 16 := 0x5050#16

def itemFieldValid : Byte := 0x5A#8
def itemFieldValidSingle : Byte := 0x7A#8
def itemFieldInvalid : Byte := 0x50#8
def itemFieldOperation : Byte := 0xFA#8
def itemFieldIdle : Byte := 0xFF#8

def itemHdrFieldValidChecksum : Byte := 0x5A#8
def itemHdrFieldValidCheckCrc : Byte := 0x7A#8

/-! ### The map of the modules -/

/-- `nv_module_t`. -/
inductive Module
  | zbInfo
  | addressTable
  | aps
  | zcl
  | nwkFrameCount
  | ota
  | app
  | keypair
  deriving DecidableEq, Repr

def Module.id : Module → Nat
  | zbInfo => 0
  | addressTable => 1
  | aps => 2
  | zcl => 3
  | nwkFrameCount => 4
  | ota => 5
  | app => 6
  | keypair => 7

def nvBaseAddress : Nat := 0x34000

def nvBaseAddress2 : Nat := 0x7A000

def moduleSectorNum : Nat := 2

def modulesStartAddr (id : Module) : Nat :=
  if id.id < 6 then nvBaseAddress + flashSectorSize * (2 * id.id)
  else nvBaseAddress2 + flashSectorSize * (2 * (id.id - 6))

def nvSectorSize (id : Module) : Nat := if id = .keypair then 2 * flashSectorSize else flashSectorSize

def moduleInfoSize (id : Module) : Nat :=
  if id = .ota ∨ id = .keypair ∨ id = .addressTable then 4 * flashPageSize else 2 * flashPageSize

def moduleSectStart (id : Module) (sectNo : Nat) : Nat := modulesStartAddr id + sectNo * nvSectorSize id

def moduleSectEnd (id : Module) (sectNo : Nat) : Nat := modulesStartAddr id + (sectNo + 1) * nvSectorSize id

def moduleIdxStart (id : Module) (sectNo : Nat) : Nat := moduleSectStart id sectNo + sizeofSectInfo

def moduleIdxNum (id : Module) : Nat := (moduleInfoSize id - sizeofSectInfo) / sizeofInfoIdx

def moduleContextStart (id : Module) (sectNo : Nat) : Nat := moduleSectStart id sectNo + moduleInfoSize id

def itemTotalLen (len : Nat) : Nat := len + sizeofItemHdr

/-- The next multiple of four. -/
def align4 (a : Nat) : Nat := (a + 3) / 4 * 4

/-- `ITEM_VALID_FLAG_CHECK`. -/
def itemValidFlagCheck (v : Byte) : Bool := v == itemFieldValid || v == itemFieldValidSingle

/-- `ITEM_FLAG_CHECK`. -/
def itemFlagCheck (v : Byte) : Bool :=
  v == itemFieldValid || v == itemFieldValidSingle || v == itemFieldInvalid || v == itemFieldOperation

/-- `ITEM_OFT_CHECK`. -/
def itemOftCheck (oft size : Nat) (id : Module) (sect : Nat) : Bool :=
  moduleContextStart id sect ≤ oft && oft < moduleSectEnd id sect && size ≤ moduleSectEnd id sect - oft

/-- `nv_sts_t`, as far as the driver returns it. -/
inductive NvSts
  | succ
  | invalidModuls
  | itemNotFound
  | notEnoughSapce
  | checkSumError
  | dataCheckError
  | itemCheckError
  deriving DecidableEq, Repr

/-! ### Sectors and the index -/

/-- `nv_sectInfoCrcCheck`. -/
def nvSectInfoCrcCheck (s : SectInfo) : Bool :=
  let crcR := (s.opSect >>> 2) &&& 0x3F#8
  let sectCrc := xcrc32 [s.idName, s.opSect &&& 0x3#8] 0xffffffff#32
  sectCrc &&& 0x3F#32 == crcR.setWidth 32

/-- `SECT_VALID_CHECK`. -/
def sectValidCheck (s : SectInfo) : Bool := s.usedFlag == nvSectorValid || s.usedFlag == nvSectorValidCheckCrc

/-- The loop of `nv_sector_read` from one of the sectors on. A sector that was about to be taken into use is now. -/
def nvSectorReadFrom (id : Module) : List Nat → Driver (Option Nat)
  | [] => return none
  | i :: rest => do
      let m ← Program.get
      let s := readSectInfo m (moduleSectStart id i)
      let sectNo := (s.opSect &&& 0x3#8).toNat
      if s.usedFlag = nvSectorValidReadyCheckCrc then
        if nvSectInfoCrcCheck s then
          let sectDel := (sectNo + 1) % 2
          if ← flashWriteWithCheck (moduleSectStart id sectDel) (bytes16 nvSectorInvalid) then
            let _ ← flashWriteWithCheck (moduleSectStart id i) (bytes16 nvSectorValidCheckCrc)
            return some sectNo
          else return some sectNo
        else nvSectorReadFrom id rest
      else if sectValidCheck s ∧ s.idName.toNat = id.id ∧ (s.usedFlag = nvSectorValidCheckCrc → nvSectInfoCrcCheck s) then
        return some sectNo
      else nvSectorReadFrom id rest

/-- `nv_sector_read`: the sector in use, if there is one. -/
def nvSectorRead (id : Module) : Driver (Option Nat) := nvSectorReadFrom id (List.range moduleSectorNum)

/-- `nv_sect_info_check`. -/
def nvSectInfoCheck (m : Mem) (sect : Nat) (id : Module) : Bool := sectValidCheck (readSectInfo m (moduleSectStart id sect))

/-- An entry of the index. -/
def infoIdxAt (m : Mem) (id : Module) (opSect i : Nat) : InfoIdx :=
  readInfoIdx m (moduleIdxStart id opSect + i * sizeofInfoIdx)

/-- The last entry of the index that passes a test. -/
def lastIdx (m : Mem) (id : Module) (opSect : Nat) (p : InfoIdx → Bool) : Option Nat :=
  (List.range (moduleIdxNum id)).reverse.find? fun i => p (infoIdxAt m id opSect i)

/-- `idxInfo.size - sizeof(itemHdr_t)` in 32 bits. -/
def payloadLen (idx : InfoIdx) : Nat := (idx.size + 2 ^ 32 - sizeofItemHdr) % 2 ^ 32

/-- The test of `nv_index_read`: an entry that is valid and whose length is a multiple of the one asked for, or for
`ITEM_FIELD_IDLE` one that is not empty. -/
def idxMatches (itemId : Byte) (len : Nat) (idx : InfoIdx) : Bool :=
  if itemId ≠ itemFieldIdle then itemValidFlagCheck idx.usedState && idx.itemId == itemId && payloadLen idx % len == 0
  else idx.usedState != itemFieldIdle || idx.size != 0xffff || idx.itemId != itemId

/-- `nv_index_read`: the last entry that matches. -/
def nvIndexRead (m : Mem) (id : Module) (itemId : Byte) (len opSect : Nat) : Option Nat :=
  lastIdx m id opSect (idxMatches itemId len)

/-! ### Writing an item -/

/-- The item comes from the memory, or is copied from another place of the flash. -/
inductive Source
  | ram (buf : List Byte)
  | flash (addr : Nat)

/-- The check of an entry against the header of its item, which is made when the header carries a checksum of it. -/
def idxCheck (m : Mem) (idx : InfoIdx) : Bool :=
  let hdr := readItemHdr m idx.offset
  hdr.used != itemHdrFieldValidCheckCrc ||
    xcrc32 idx.covered 0xffffffff#32 &&& 0xffff#32 == (hdr.checkSum >>> 16) &&& 0xffff#32

/-- The place behind the item of the entry before. -/
def nvItemOffset (m : Mem) (id : Module) (opSect opItemIdx : Nat) : Option Nat :=
  if opItemIdx = 0 then some (moduleContextStart id opSect)
  else
    let idx := infoIdxAt m id opSect (opItemIdx - 1)
    if idxCheck m idx && itemFlagCheck idx.usedState && itemOftCheck idx.offset idx.size id opSect then
      some (align4 (idx.offset + idx.size))
    else none

/-- The sums that a copy keeps of the bytes it has read. -/
structure CopySums where
  checkSum : BitVec 32
  crcOld : BitVec 32
  crcOri : BitVec 32

def CopySums.add (used : Byte) (sums : CopySums) (buf : List Byte) : CopySums :=
  if used = itemHdrFieldValidChecksum then
    { sums with
      checkSum := buf.foldl (fun sum b => sum + b.setWidth 32) sums.checkSum
      crcOld := xcrc32 buf sums.crcOld }
  else { sums with crcOri := xcrc32 buf sums.crcOri }

/-- The copy of `toalLen` bytes in pieces of at most 48; `none` when a piece is not read back. -/
def nvCopy (used : Byte) : Nat → Nat → Nat → Nat → CopySums → Driver (Option CopySums)
  | 0, _, _, _, sums => return some sums
  | pieces + 1, toalLen, sAddr, dAddr, sums => do
      let wLen := min toalLen 48
      let m ← Program.get
      let pTemp := read m sAddr wLen
      if ← flashWriteWithCheck dAddr pTemp then
        nvCopy used pieces (toalLen - wLen) (sAddr + wLen) (dAddr + wLen) (sums.add used pTemp)
      else return none

/-- The payload is written behind the header's place: the header's size, item and use, and the checksum that goes into
its lower half. -/
def nvWriteContext (itemId : Byte) (offset len : Nat) : Source → Driver (Except NvSts (ItemHdr × BitVec 32))
  | .flash addr => do
      let m ← Program.get
      let hdr := readItemHdr m addr
      let sums := ⟨0, 0xffffffff#32, 0xffffffff#32⟩
      match ← nvCopy hdr.used ((len + 47) / 48) len (addr + sizeofItemHdr) (offset + sizeofItemHdr) sums with
      | none => return .error .checkSumError
      | some sums =>
        if hdr.used = itemHdrFieldValidChecksum then
          if hdr.checkSum ≠ sums.checkSum then return .error .dataCheckError
          else
            let hdr := { hdr with used := itemHdrFieldValidCheckCrc }
            return .ok (hdr, xcrc32 hdr.covered sums.crcOld)
        else
          let crcOri := xcrc32 hdr.covered sums.crcOri
          if crcOri &&& 0xffff#32 ≠ hdr.checkSum &&& 0xffff#32 then return .error .dataCheckError
          else return .ok (hdr, crcOri)
  | .ram buf => do
      let payloadAddr := offset + sizeofItemHdr
      let crcOri := xcrc32 buf 0xffffffff#32
      flashWrite payloadAddr buf
      let m ← Program.get
      if xcrc32 (read m payloadAddr len) 0xffffffff#32 = crcOri then
        let hdr : ItemHdr := ⟨0, len, itemId, itemHdrFieldValidCheckCrc⟩
        return .ok (hdr, xcrc32 hdr.covered crcOri)
      else return .error .checkSumError

/-- Both checksums of an item in one word: of its entry in the index, and of its payload and header. -/
def itemCheckSum (idx : InfoIdx) (crcOri : BitVec 32) : BitVec 32 :=
  ((xcrc32 idx.covered 0xffffffff#32 &&& 0xffff#32) <<< 16) ||| (crcOri &&& 0xffff#32)

def offsetofUsedState : Nat := 7

/-- `nv_write_item`: the entry of the index, the payload, the header, and last the state in the index. -/
def nvWriteItem (single : Bool) (id : Module) (itemId : Byte) (opSect opItemIdx len : Nat) (src : Source) :
    Driver NvSts := do
  let m ← Program.get
  match nvItemOffset m id opSect opItemIdx with
  | none => return .itemCheckError
  | some offset =>
    let idxInfo : InfoIdx := ⟨offset, itemTotalLen len % 2 ^ 16, itemId, itemFieldOperation⟩
    let idxAddr := moduleIdxStart id opSect + opItemIdx * sizeofInfoIdx
    if itemOftCheck idxInfo.offset idxInfo.size id opSect then
      if ← flashWriteWithCheck idxAddr idxInfo.toBytes then
        match ← nvWriteContext itemId offset len src with
        | .error st => return st
        | .ok (hdr, crcOri) =>
          let hdr := { hdr with checkSum := itemCheckSum idxInfo crcOri }
          if ← flashWriteWithCheck offset hdr.toBytes then
            let usedState := if single then itemFieldValidSingle else itemFieldValid
            let _ ← flashWriteWithCheck (idxAddr + offsetofUsedState) [usedState]
            return .succ
          else return .checkSumError
      else return .itemCheckError
    else return .itemCheckError

/-! ### Reading an item -/

/-- `g_nvItemLenCheckTbl`, with its unused entries. -/
abbrev LenCheckTbl := List (Byte × Nat)

/-- `nv_itemLengthValidCheck`. -/
def nvItemLengthValidCheck (tbl : LenCheckTbl) (itemId : Byte) (len : Nat) : Nat :=
  match tbl.find? fun entry => entry.1 = itemId with
  | some entry => min entry.2 len
  | none => len

/-- `nv_flashReadByIndex`. -/
def nvFlashReadByIndex (tbl : LenCheckTbl) (m : Mem) (id : Module) (itemId : Byte) (opSect opIdx len : Nat) :
    Except NvSts (List Byte) :=
  let idx := infoIdxAt m id opSect opIdx
  if itemValidFlagCheck idx.usedState then
    let hdr := readItemHdr m idx.offset
    let payloadAddr := idx.offset + sizeofItemHdr
    let realLen := nvItemLengthValidCheck tbl itemId hdr.size
    let buf := read m payloadAddr realLen
    let rest := read m (payloadAddr + realLen) (hdr.size - realLen)
    if hdr.size % len = 0 ∧ (hdr.used = itemHdrFieldValidChecksum ∨ hdr.used = itemHdrFieldValidCheckCrc) ∧
        hdr.itemId = itemId then
      if hdr.used = itemHdrFieldValidChecksum then
        if (buf ++ rest).foldl (fun sum b => sum + b.setWidth 32) 0#32 = hdr.checkSum then .ok buf
        else .error .checkSumError
      else
        let crcRead := xcrc32 hdr.covered (xcrc32 (buf ++ rest) 0xffffffff#32)
        if crcRead &&& 0xffff#32 = hdr.checkSum &&& 0xffff#32 then .ok buf else .error .checkSumError
    else .error .itemNotFound
  else .error .itemNotFound

/-- `nv_itemDeleteByIndex`. -/
def nvItemDeleteByIndex (id : Module) (opSect opIdx : Nat) : Driver Unit :=
  flashWrite (moduleIdxStart id opSect + opIdx * sizeofInfoIdx + offsetofUsedState) [itemFieldInvalid]

/-- `nv_flashReadNew` of a single item. -/
def nvFlashReadNew (tbl : LenCheckTbl) (id : Module) (itemId : Byte) (len : Nat) : Driver (Except NvSts (List Byte)) := do
  if id = .nwkFrameCount then return .error .invalidModuls
  else
    match ← nvSectorRead id with
    | none => return .error .itemNotFound
    | some opSect =>
      let m ← Program.get
      match nvIndexRead m id itemId len opSect with
      | none => return .error .itemNotFound
      | some opIdx =>
        match nvFlashReadByIndex tbl m id itemId opSect opIdx len with
        | .error .checkSumError =>
          nvItemDeleteByIndex id opSect opIdx
          return .error .checkSumError
        | r => return r

/-! ### Writing -/

/-- The loop of `nv_exceptionDataHandler`, from the last entry of the index on: of a single item only the last valid
entry is left. `idxTbl` are the items that were met. -/
def nvExceptionDataLoop (single : Bool) (id : Module) (opSect : Nat) : List Nat → List Byte → Driver Unit
  | [], _ => return ()
  | opIdx :: rest, idxTbl => do
      let m ← Program.get
      let idx := infoIdxAt m id opSect opIdx
      if itemValidFlagCheck idx.usedState then
        if idx.usedState = itemFieldValidSingle ∨ idx.itemId.toNat = id.id ∧ single then
          if idx.itemId ∈ idxTbl then
            nvItemDeleteByIndex id opSect opIdx
            nvExceptionDataLoop single id opSect rest idxTbl
          else nvExceptionDataLoop single id opSect rest (idxTbl ++ [idx.itemId])
        else nvExceptionDataLoop single id opSect rest idxTbl
      else nvExceptionDataLoop single id opSect rest idxTbl

/-- `nv_exceptionDataHandler`; nothing when there is no buffer for its table. -/
def nvExceptionDataHandler (bufFree single : Bool) (opSect : Nat) (id : Module) : Driver Unit :=
  if bufFree then nvExceptionDataLoop single id opSect (List.range (moduleIdxNum id)).reverse [] else return ()

/-- Where the copying of the items to the other sector has come to: the next entry there, the end of what it holds,
and the place and size of the entry that was looked at last. -/
structure Copied where
  wItemIdx : Nat
  sizeusedAddr : Nat
  prev : Option (Nat × Nat)

/-- Where the next item must lie: first, or where the one before it ends. -/
def Copied.expected (c : Copied) (id : Module) (oldSect : Nat) : Nat :=
  match c.prev with
  | none => moduleContextStart id oldSect
  | some (offset, size) => align4 (offset + size)

/-- The copying of the valid items from `oldSect`, over its entries in order, until one is not where the one before it
ends. -/
def nvCopyItems (single : Bool) (id : Module) (itemId : Byte) (oldSect opSect : Nat) :
    List Nat → Copied → Driver (Except NvSts Copied)
  | [], c => return .ok c
  | i :: rest, c => do
      let m ← Program.get
      let idx := infoIdxAt m id oldSect i
      if idx.offset ≠ c.expected id oldSect ∨ (moduleSectEnd id oldSect + 2 ^ 32 - idx.offset) % 2 ^ 32 < idx.size then
        return .ok c
      else
        let c := { c with prev := some (idx.offset, idx.size) }
        if itemValidFlagCheck idx.usedState ∧ (idx.itemId ≠ itemId ∨ ¬ single) ∧ idxCheck m idx then
          let sgl := idx.usedState == itemFieldValidSingle
          -- the length goes through a parameter of 16 bits
          let len := payloadLen idx % 2 ^ 16
          let ret ← nvWriteItem sgl id idx.itemId opSect c.wItemIdx len (.flash idx.offset)
          let c := { c with wItemIdx := c.wItemIdx + 1, sizeusedAddr := align4 (c.sizeusedAddr + idx.size) }
          match ret with
          | .itemCheckError => return .ok c
          | .notEnoughSapce => return .error ret
          | .checkSumError => return .error ret
          | _ => nvCopyItems single id itemId oldSect opSect rest c
        else nvCopyItems single id itemId oldSect opSect rest c

/-- A sector is erased, in pieces that the flash erases as one. -/
def nvSectorErase (id : Module) (sect : Nat) : Nat → Driver Unit
  | 0 => return ()
  | k + 1 => do
      nvSectorErase id sect k
      flashErase (moduleSectStart id sect + flashSectorSize * k)

/-- The number of these pieces. -/
def nvRealSectNum (id : Module) : Nat := nvSectorSize id / flashSectorSize

/-- The next free entry of the index in the sector in use, or none when the item goes to the other sector. -/
def nvFreeItemIdx (m : Mem) (id : Module) (opSect len : Nat) : Option Nat :=
  match nvIndexRead m id itemFieldIdle len opSect with
  | none => some 0
  | some wItemIdx =>
    let idx := infoIdxAt m id opSect wItemIdx
    if wItemIdx = moduleIdxNum id - 1 ∨
        moduleSectEnd id opSect < (idx.offset + idx.size + itemTotalLen len) % 2 ^ 32 then none
    else if itemFlagCheck idx.usedState ∧ itemOftCheck idx.offset idx.size id opSect then some (wItemIdx + 1)
    else none

/-- The header of a sector in use, with the check bits over its item and number. -/
def usedSectInfo (usedFlag : BitVec 16) (id : Module) (opSect : Nat) : SectInfo :=
  let idName : Byte := .ofNat 8 id.id
  let opSect : Byte := .ofNat 8 opSect
  let sectCrc := xcrc32 [idName, opSect] 0xffffffff#32
  ⟨usedFlag, idName, (sectCrc.setWidth 8 <<< 2) ||| opSect⟩

/-- The end of a write: the item itself, then the older one of its kind is deleted. -/
def nvPutItem (single : Bool) (id : Module) (itemId : Byte) (opSect wItemIdx : Nat) (buf : List Byte) : Driver NvSts := do
  let m ← Program.get
  let deleteIdx := if single then nvIndexRead m id itemId buf.length opSect else none
  match ← nvWriteItem single id itemId opSect wItemIdx buf.length (.ram buf) with
  | .succ =>
    match deleteIdx with
    | none => return .succ
    | some deleteIdx =>
      let addr := moduleIdxStart id opSect + deleteIdx * sizeofInfoIdx + offsetofUsedState
      if ← flashWriteWithCheck addr [itemFieldInvalid] then return .succ else return .checkSumError
  | ret => return ret

/-- The other sector is taken into use: it is ready, the old one is invalid, it is valid. -/
def nvSwitchSector (id : Module) (oldSect opSect : Nat) : Driver NvSts := do
  if ← flashWriteWithCheck (moduleSectStart id opSect) (usedSectInfo nvSectorValidReadyCheckCrc id opSect).toBytes then
    if ← flashWriteWithCheck (moduleSectStart id oldSect) (bytes16 nvSectorInvalid) then
      let _ ← flashWriteWithCheck (moduleSectStart id opSect) (bytes16 nvSectorValidCheckCrc)
      return .succ
    else return .succ
  else return .checkSumError

/-- A write that goes to the other sector, with what is still valid. -/
def nvMoveItems (bufFree single : Bool) (id : Module) (itemId : Byte) (oldSect : Nat) (buf : List Byte) :
    Driver NvSts := do
  let opSect := (oldSect + 1) % 2
  nvSectorErase id opSect (nvRealSectNum id)
  nvExceptionDataHandler bufFree single oldSect id
  let m ← Program.get
  let start : Copied := ⟨0, moduleContextStart id opSect, none⟩
  let copied ← if nvSectInfoCheck m oldSect id then
      nvCopyItems single id itemId oldSect opSect (List.range (moduleIdxNum id)) start
    else pure (.ok start)
  match copied with
  | .error st => return st
  | .ok c =>
    if c.wItemIdx = moduleIdxNum id ∨ moduleSectEnd id opSect < c.sizeusedAddr + itemTotalLen buf.length then
      return .notEnoughSapce
    else
      match ← nvPutItem single id itemId opSect c.wItemIdx buf with
      | .succ => nvSwitchSector id oldSect opSect
      | ret => return ret

/-- A write into the sector in use, which the first item makes valid. -/
def nvAppendItem (single : Bool) (id : Module) (itemId : Byte) (opSect wItemIdx : Nat) (buf : List Byte) :
    Driver NvSts := do
  match ← nvPutItem single id itemId opSect wItemIdx buf with
  | .succ =>
    if wItemIdx = 0 then
      let _ ← flashWriteWithCheck (moduleSectStart id opSect) (usedSectInfo nvSectorValidCheckCrc id opSect).toBytes
      return .succ
    else return .succ
  | ret => return ret

/-- `nv_flashWriteNewHandler`. -/
def nvFlashWriteNewHandler (bufFree forceChgSec single : Bool) (id : Module) (itemId : Byte) (buf : List Byte) :
    Driver NvSts := do
  if nvSectorSize id < itemTotalLen buf.length + moduleInfoSize id then return .notEnoughSapce
  else
    let opSect ← match ← nvSectorRead id with
      | some opSect => pure opSect
      | none => do
          nvSectorErase id 0 (nvRealSectNum id)
          pure 0
    let m ← Program.get
    match if forceChgSec then none else nvFreeItemIdx m id opSect buf.length with
    | some wItemIdx => nvAppendItem single id itemId opSect wItemIdx buf
    | none => nvMoveItems bufFree single id itemId opSect buf

/-- `nv_flashWriteNew`. -/
def nvFlashWriteNew (bufFree single : Bool) (id : Module) (itemId : Byte) (buf : List Byte) : Driver NvSts := do
  if id = .nwkFrameCount then return .invalidModuls
  else
    match ← nvFlashWriteNewHandler bufFree false single id itemId buf with
    | .itemCheckError => nvFlashWriteNewHandler bufFree true single id itemId buf
    | ret => return ret

/-! ### Resetting -/

/-- `nv_resetModule`. -/
def nvResetModule (id : Module) : Driver Unit := do
  nvSectorErase id 0 (nvRealSectNum id)
  nvSectorErase id 1 (nvRealSectNum id)

/-- `CFG_FACTORY_RST_CNT`. -/
def cfgFactoryRstCnt : Nat := 0x79000

/-- `nv_facrotyNewRstFlagCheck`. -/
def nvFacrotyNewRstFlagCheck (m : Mem) : Bool := m cfgFactoryRstCnt != 0xFF#8

/-- `nv_facrotyNewRstFlagSet`. -/
def nvFacrotyNewRstFlagSet : Driver Unit := do
  let _ ← flashWriteWithCheck cfgFactoryRstCnt [itemFieldValid]
  return ()

/-- `nv_facrotyNewRstFlagClear`. -/
def nvFacrotyNewRstFlagClear : Driver Unit := flashErase cfgFactoryRstCnt

/-- The modules by their number, up to `NV_MAX_MODULS`. -/
def modules : List Module := [.zbInfo, .addressTable, .aps, .zcl, .nwkFrameCount, .ota, .app, .keypair]

/-- The loop of `nv_resetToFactoryNew`, which spares the frame counter. -/
def nvResetModules : List Module → Driver Unit
  | [] => return ()
  | id :: rest => do
      if id ≠ .nwkFrameCount then nvResetModule id
      nvResetModules rest

/-- `nv_resetToFactoryNew`. -/
def nvResetToFactoryNew : Driver Unit := do
  let m ← Program.get
  if !nvFacrotyNewRstFlagCheck m then nvFacrotyNewRstFlagSet
  nvResetModules modules
  nvFacrotyNewRstFlagClear

end Watermeter.Nv
