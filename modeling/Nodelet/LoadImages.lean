import Nodelet.Constants
import Nodelet.Go.Fallible
import Nodelet.Go.Lines
import Nodelet.Go.Transition
import Nodelet.Sunpike.Host

/-! The phase that loads user images. A file with the checksums of the images stands for
the fact that they have been loaded; it is written by the helper that compares the
checksums, before the load. -/
namespace Nodelet.LoadImages
open Sunpike (HostPhase)

/-- An entry of an image directory. -/
structure Item (Data : Type) where
  name : String
  isDir : Bool := false
  data : Data
  deriving DecidableEq, Repr

/-- Names and sums of the files. -/
abbrev Content := List (String × String)

def content (sha256 : Data → String) (items : List (Item Data)) : Content :=
  (items.filter (!·.isDir)).map fun item => (item.name, sha256 item.data)

/-- An image directory; the subdirectory with the checksum file is kept apart. The phase does
not see which contents have been loaded since the files last changed, and whether an attempt
to do so has failed. -/
structure Directory (Data : Type) where
  items : List (Item Data) := []
  checksumDir : Bool := false
  checksumFile : Option (List Char) := none
  loads : List Content := []
  failed : Bool := false
  deriving DecidableEq, Repr

structure Host (Data : Type) where
  directories : String → Option (Directory Data)
  phase : HostPhase := {}

/-- What goes wrong while one operation runs. A write can fail after some of the text. -/
structure Faults where
  mkdirImages : Option Go.Error := none
  statChecksum : Option Go.Error := none
  readDir : Bool := false
  openImage : String → Option Go.Error := fun _ => none
  openChecksum : Option Go.Error := none
  mkdirChecksum : Option Go.Error := none
  createChecksum : Option Go.Error := none
  write : Option (Nat × Go.Error) := none
  loadReadDir : Option Go.Error := none
  loadImage : String → Option Go.Error := fun _ => none

abbrev Operation (Data : Type) := Go.Fallible (Host Data)

section Helpers
variable {Data : Type} (sha256 : Data → String) (faults : Faults)

def orFail (fault : Option Go.Error) : Operation Data Unit :=
  match fault with
  | some err => throw err
  | none => pure ()

def directory (path : String) : Operation Data (Directory Data) := do
  return ((← get).directories path).getD {}

def setDirectory (path : String) (directory : Directory Data) : Operation Data Unit :=
  modify fun host =>
    { host with directories := Function.update host.directories path (some directory) }

def setHostStatus (status message : String) : Operation Data Unit :=
  modify fun host => { host with phase := { host.phase with status, message } }

/-- An error is also put into the status of the phase. -/
def reporting (program : Operation Data α) : Operation Data α :=
  tryCatch program fun err => do
    setHostStatus Constants.failedState err
    throw err

def wrapf (message : String) (program : Operation Data α) : Operation Data α :=
  tryCatch program fun err => throw (message ++ ": " ++ err)

/-- The line for a file with this name and sum. -/
def hashLine (imageDir : String) (file : String × String) : List Char :=
  (file.2 ++ "  " ++ imageDir ++ "/" ++ file.1).toList

def generateHashForFile (imageDir : String) (item : Item Data) : Operation Data (List Char) := do
  orFail (faults.openImage item.name)
  return hashLine imageDir (item.name, sha256 item.data)

/-- An error of `ReadDir` is dropped, and leaves no items. -/
def generateHashForDir (imageDir : String) : Operation Data (List (List Char)) := do
  let found ← directory imageDir
  let items := if faults.readDir then [] else found.items
  (items.filter (!·.isDir)).mapM (generateHashForFile sha256 faults imageDir)

def readFileByLine (imageDir : String) : Operation Data (List (List Char)) := do
  orFail faults.openChecksum
  match (← directory imageDir).checksumFile with
  | some text => return Go.scanLines [] text
  | none => throw ("open " ++ imageDir ++ "/checksum/sha256sums.txt: no such file or directory")

/-- The checksum file is truncated, then written line by line. -/
def writeToFile (imageDir : String) (lines : List (List Char)) : Operation Data Unit := do
  orFail faults.createChecksum
  let found ← directory imageDir
  match faults.write with
  | none => setDirectory imageDir { found with checksumFile := some (Go.joinLines lines) }
  | some (written, err) =>
    setDirectory imageDir
      { found with checksumFile := some ((Go.joinLines lines).take written), failed := true }
    throw err

def generateChecksum (imageDir : String) : Operation Data Unit := do
  let hash ← wrapf ("could not generate hash for: " ++ imageDir)
    (generateHashForDir sha256 faults imageDir)
  let found ← directory imageDir
  if !found.checksumDir then
    wrapf ("failed to create directory: " ++ imageDir ++ "/checksum") (orFail faults.mkdirChecksum)
    setDirectory imageDir { found with checksumDir := true }
  writeToFile faults imageDir hash

def verifyChecksum (imageDir : String) : Operation Data Bool := do
  let currentHash ← wrapf ("could not generate hash for: " ++ imageDir)
    (generateHashForDir sha256 faults imageDir)
  let prevHash ← readFileByLine faults imageDir
  if currentHash = prevHash then
    return true
  else
    writeToFile faults imageDir currentHash
    return false

def loadImagesFromFile (imageDir : String) (item : Item Data) : Except Go.Error Unit :=
  match faults.loadImage item.name with
  | some err =>
    .error ("could not load images from : " ++ imageDir ++ "/" ++ item.name ++ ": " ++ err)
  | none => .ok ()

/-- The files are imported in turn, until one fails. -/
def importImages (imageDir : String) (items : List (Item Data)) : Except Go.Error Unit :=
  match faults.loadReadDir with
  | some err => .error ("could not read dir: " ++ imageDir ++ ": " ++ err)
  | none => (items.filter (!·.isDir)).forM (loadImagesFromFile faults imageDir)

def loadImagesFromDir (imageDir : String) : Operation Data Unit := do
  let found ← directory imageDir
  match importImages faults imageDir found.items with
  | .ok () =>
    setDirectory imageDir { found with loads := content sha256 found.items :: found.loads }
  | .error err =>
    setDirectory imageDir { found with failed := true }
    throw err

end Helpers

section Phase
variable {Data : Type} (sha256 : Data → String) (userImagesDir : String) (faults : Faults)

def status : Operation Data Unit := do
  if ((← get).directories userImagesDir).isNone then
    setHostStatus Constants.runningState ""
  else
    let check ← reporting (verifyChecksum sha256 faults userImagesDir)
    if !check then
      reporting (loadImagesFromDir sha256 faults userImagesDir)
    setHostStatus Constants.runningState ""

/-- Whether the images are to be loaded; where there is no checksum file, one is generated. -/
def outdated : Operation Data Bool := do
  orFail faults.statChecksum
  if (← directory userImagesDir).checksumFile.isSome then
    return !(← verifyChecksum sha256 faults userImagesDir)
  else
    generateChecksum sha256 faults userImagesDir
    return true

def start : Operation Data Unit := do
  if ((← get).directories Constants.userImagesDir).isNone then
    reporting (orFail faults.mkdirImages)
    setDirectory Constants.userImagesDir {}
  if ((← get).directories userImagesDir).isNone then
    setHostStatus Constants.runningState ""
  else
    let load ← reporting (outdated sha256 userImagesDir faults)
    if load then
      reporting (loadImagesFromDir sha256 faults userImagesDir)
    setHostStatus Constants.runningState ""

end Phase

inductive PhaseOp where
  | status
  | start
  deriving DecidableEq, Repr

def PhaseOp.program (sha256 : Data → String) (userImagesDir : String) (faults : Faults) :
    PhaseOp → Operation Data Unit
  | .status => LoadImages.status sha256 userImagesDir faults
  | .start => LoadImages.start sha256 userImagesDir faults

/-- What happens next: the files of a directory change, or the phase is called. -/
inductive Choice (Data : Type) where
  | change (path : String) (items : Option (List (Item Data)))
  | call (op : PhaseOp) (faults : Faults)

/-- Other files in a directory. Nothing has been loaded since their content appeared. -/
def Directory.changed (sha256 : Data → String) (items : List (Item Data)) (found : Directory Data) :
    Directory Data :=
  if content sha256 items = content sha256 found.items then { found with items }
  else { found with items, loads := [], failed := false }

def Host.changed (sha256 : Data → String) (host : Host Data) (path : String)
    (items : Option (List (Item Data))) : Host Data :=
  { host with
    directories := Function.update host.directories path <|
      items.map fun items => ((host.directories path).getD {}).changed sha256 items }

def step (sha256 : Data → String) (userImagesDir : String) :
    Choice Data → Host Data → Option (Host Data)
  | .change path items, host => some (host.changed sha256 path items)
  | .call op faults, host => some ((op.program sha256 userImagesDir faults).result host).2

end Nodelet.LoadImages
