import Mathlib.Data.List.DropRight
import Watermeter.OtaImage
import Watermeter.PyStruct

/-! The two scripts of `tools/`: `tl_check_fw.py` completes a firmware image, `make_ota.py` does the same to
an image that is not complete and puts the OTA header before it. Files are lists of bytes. -/

namespace Watermeter

open NorFlash
open PyStruct hiding Byte

/-- `bs[i:j]`. -/
def slice (bs : List Byte) (i j : Nat) : List Byte := (bs.take j).drop i

/-- `bs[i:j] = new`. -/
def setSlice (bs : List Byte) (i j : Nat) (new : List Byte) : List Byte := bs.take i ++ new ++ bs.drop j

def otaMagic : List Byte := [0x5d#8, 0x02#8]

/-- `binascii.crc32`: the register starts at all ones, takes each byte from the low end, and is inverted. -/
def crc32 (data : List Byte) : BitVec 32 :=
  data.foldl
    (fun crc b =>
      (List.range 8).foldl (fun crc _ => if crc.getLsbD 0 then (crc >>> 1) ^^^ 0xEDB88320#32 else crc >>> 1)
        (crc ^^^ b.setWidth 32))
    0xffffffff#32 ^^^ 0xffffffff#32

/-- `tl_check_fw.py`: what it leaves in the file. -/
def tlCheckFw (firmware : List Byte) : Except PyError (List Byte) :=
  if slice firmware 6 8 ≠ otaMagic then do
    let padding := 16 - firmware.length % 16
    let firmware := if padding < 16 then firmware ++ List.replicate padding 0xFF#8 else firmware
    let length ← toBytes 4 (firmware.length + 4)
    let firmware := setSlice firmware 0x18 0x1c length
    let firmware := setSlice firmware 6 8 otaMagic
    let crc := crc32 firmware ^^^ 0xffffffff#32
    let tail ← toBytes 4 crc.toNat
    return firmware ++ tail
  else
    return firmware

/-! ### `make_ota.py` -/

/-- The arguments of the script. -/
structure OtaArgs where
  inputFile : List Char
  outputTitle : Option (List Char) := none
  output : Option (List Char) := none
  otaVersion : Int := 2
  setVersion : Option Int := none
  deriving DecidableEq, Repr

/-- The file the script writes. -/
structure OtaOutput where
  outFilename : List Char
  content : List Byte
  deriving DecidableEq, Repr

/-- `os.path.split`. -/
def osPathSplit (p : List Char) : List Char × List Char :=
  let head := p.rdropWhile (· ≠ '/')
  (if head.all (· == '/') then head else head.rdropWhile (· == '/'), p.rtakeWhile (· ≠ '/'))

/-- `os.path.splitext` of a name without a slash: the part before the extension. -/
def osPathRoot (tail : List Char) : List Char :=
  let stem := tail.rdropWhile (· ≠ '.')
  if stem.all (· == '.') then tail else stem.dropLast

/-- `os.path.join` with a name that does not start with a slash. -/
def osPathJoin (head name : List Char) : List Char :=
  if head = [] ∨ head.getLast? = some '/' then head ++ name else head ++ '/' :: name

/-- `'{:0wx}'.format(v)`. -/
def hexFormat (w v : Nat) : List Char := (Nat.toDigits 16 v).leftpad w '0'

/-- An option that was given and is not empty. -/
def given (o : Option (List Char)) : Option (List Char) := o.filter (· ≠ [])

/-- The name of the output file. -/
def outFilename (args : OtaArgs) (manufacturerCode imageType fileVersion : Nat) : List Char :=
  match given args.output with
  | some name => name
  | none =>
      let (head, tail) := osPathSplit args.inputFile
      let name := (given args.outputTitle).getD (osPathRoot tail)
      osPathJoin head (hexFormat 4 manufacturerCode ++ '-' :: hexFormat 4 imageType ++ '-' :: hexFormat 8 fileVersion ++
        '-' :: name ++ ".zigbee".toList)

/-- `args.set_version or ..`: a version of zero counts as not given. -/
def fileVersionOf (args : OtaArgs) (firmware : List Byte) : Int :=
  match args.setVersion with
  | some v => if v ≠ 0 then v else fromBytes (slice firmware 2 6)
  | none => fromBytes (slice firmware 2 6)

/-- `'<I5HIH32sI'`. -/
def otaHdrFormat : List Format :=
  [.uint 4, .uint 2, .uint 2, .uint 2, .uint 2, .uint 2, .uint 4, .uint 2, .bytes 32, .uint 4]

/-- `'<HI'`. -/
def chunkFormat : List Format := [.uint 2, .uint 4]

def headerSize : Nat := 56

/-- The values of the header. -/
def otaHdr (args : OtaArgs) (firmware : List Byte) : List Value :=
  [.int 0xbeef11e, .int 0x100, .int headerSize, .int 0, .int (fromBytes (slice firmware 18 20)),
    .int (fromBytes (slice firmware 20 22)), .int (fileVersionOf args firmware), .int args.otaVersion,
    .bytes (List.replicate 32 0#8), .int (firmware.length + headerSize + 6 : Nat)]

/-- The second half of `main`: the header, the chunk header and the firmware. -/
def writeOta (args : OtaArgs) (firmware : List Byte) : Except PyError OtaOutput := do
  let hdr ← pack otaHdrFormat (otaHdr args firmware)
  let chunk ← pack chunkFormat [.int 0, .int firmware.length]
  return {
    outFilename := outFilename args (fromBytes (slice firmware 18 20)) (fromBytes (slice firmware 20 22))
      (fileVersionOf args firmware).toNat
    content := hdr ++ chunk ++ firmware }

/-- `main` of `make_ota.py`. -/
def makeOta (args : OtaArgs) (file : List Byte) : Except PyError OtaOutput :=
  if some args.inputFile = args.output then .error .assertionError
  else do
    let firmware ←
      if slice file 6 8 ≠ otaMagic then do
        let padding := 16 - file.length % 16
        let firmware := if padding < 16 then file ++ List.replicate padding 0xFF#8 else file
        let length ← toBytes 4 (firmware.length + 4)
        let firmware := setSlice firmware 0x18 0x1c length
        let firmware := setSlice firmware 6 8 otaMagic
        let crc := crc32 firmware ^^^ 0xffffffff#32
        let tail ← toBytes 4 crc.toNat
        pure (firmware ++ tail)
      else pure file
    writeOta args firmware

/-! ### Reading an OTA file -/

/-- The fields of an OTA file with one element. -/
structure OtaFile where
  magic : Int
  headerVersion : Int
  headerSize : Int
  fieldControl : Int
  manufacturerCode : Int
  imageType : Int
  fileVersion : Int
  stackVersion : Int
  headerString : List Byte
  totalImageSize : Int
  elementTag : Int
  elementLength : Int
  element : List Byte
  deriving DecidableEq, Repr

/-- The header and the chunk header are unpacked, the rest is the element. -/
def parseOta (content : List Byte) : Except PyError OtaFile := do
  let hdr ← unpack otaHdrFormat (content.take (calcsize otaHdrFormat))
  let chunk ← unpack chunkFormat ((content.drop (calcsize otaHdrFormat)).take (calcsize chunkFormat))
  match hdr, chunk with
  | [.int magic, .int headerVersion, .int headerSize, .int fieldControl, .int manufacturerCode, .int imageType,
      .int fileVersion, .int stackVersion, .bytes headerString, .int totalImageSize],
    [.int elementTag, .int elementLength] =>
      return { magic, headerVersion, headerSize, fieldControl, manufacturerCode, imageType, fileVersion, stackVersion,
               headerString, totalImageSize, elementTag, elementLength,
               element := content.drop (calcsize otaHdrFormat + calcsize chunkFormat) }
  | _, _ => .error .structError

end Watermeter
