import Nodelet.Go.Base64Lines
import Nodelet.Go.Utf8

/-! Reading, writing and decoding files. A file that was opened is written to its end. -/
namespace Nodelet.Fileio
open Go (Error)
open Go.Base64

/-- What reading each path gives, and the paths that cannot be opened for writing. -/
structure Files where
  contents : String → Except Error (List UInt8)
  refused : String → Option Error

/-- The dynamic types `WriteToFile` tells apart. -/
inductive Data where
  | bytes (data : List UInt8)
  | lines (data : List String)
  | text (data : String)
  | other

def Files.put (files : Files) (filename : String) (data : List UInt8) : Files :=
  { files with contents := fun path => if path = filename then .ok data else files.contents path }

def readFile (filename : String) (files : Files) : Except Error (List UInt8) :=
    files.contents filename

def Data.written : Data → Option (List UInt8)
  | bytes data => some data
  | lines data => some (data.flatMap fun str => Go.Utf8.bytes (str ++ "\n"))
  | text data => some (Go.Utf8.bytes data)
  | other => none

def writeToFile (filename : String) (data : Data) (append : Bool) (files : Files) :
    Option Error × Files :=
  match files.refused filename with
  | some err => (some err, files)
  | none =>
    -- the file is created or truncated before the data is looked at
    let kept := if append then (files.contents filename).toOption.getD [] else []
    match data.written with
    | some bytes => (none, files.put filename (kept ++ bytes))
    | none =>
      (some "invalid data provided to write to a file. Provide []byte, []string or string", files.put filename kept)

/-- `base64.StdEncoding.DecodedLen` -/
def decodedLen (length : Nat) : Nat := length / 4 * 3

/-- All of the buffer is written, with the zeros that are left in it behind what was decoded. -/
def decoded (src : List UInt8) : Except Error (List UInt8) := do
  let out ← stdEncoding.decodeString src
  return out ++ List.replicate (decodedLen src.length - out.length) 0

def writeToFileWithBase64Decoding (destFile srcFile : String) (files : Files) :
    Option Error × Files :=
  match readFile srcFile files with
  | .error err => (some err, files)
  | .ok src =>
    match decoded src with
    | .error err => (some ("decode error: " ++ err), files)
    | .ok dst => writeToFile destFile (.bytes dst) false files

variable {files : Files} {destFile srcFile : String} {src d : List UInt8}

/-- What is decoded is the file, and nothing is written where it cannot be decoded. -/
def Decodes (files : Files) (destFile srcFile : String) (src : List UInt8) : Prop :=
  let (err, after) := writeToFileWithBase64Decoding destFile srcFile files
  (∀ d, unwrap src = stdEncoding.encodeToString d → err = none ∧ after.contents destFile = .ok d) ∧
    (¬ stdEncoding.WellFormed (unwrap src) → err ≠ none ∧
      after.contents destFile = files.contents destFile)

theorem length_eq_unwrap (text : List UInt8) :
    text.length = (unwrap text).length + text.countP lineEnd := by
  rw [unwrap, ← List.countP_eq_length_filter, List.length_eq_countP_add_countP lineEnd,
    Nat.add_comm]
  simp only [Bool.not_eq_true, Bool.decide_eq_false]

theorem decoded_of_encoding (encodes : unwrap src = stdEncoding.encodeToString d) :
    decoded src = .ok (d ++ List.replicate (((d.length + 2) / 3 + src.countP lineEnd / 4) * 3 - d.length) 0) := by
  have length : src.length = 4 * ((d.length + 2) / 3) + src.countP lineEnd := by
    rw [length_eq_unwrap src, encodes, Encoding.length_encodeToString rfl]
  have out : stdEncoding.decodeString src = .ok d := by
    rw [Encoding.decodeString_unwrap, encodes]
    exact Encoding.decodeString_encodeToString d
  have room : decodedLen src.length = ((d.length + 2) / 3 + src.countP lineEnd / 4) * 3 := by
    rw [decodedLen, length, Nat.mul_add_div (by decide)]
  rw [decoded, out, ← room]
  rfl

theorem spare_eq_zero {n lines : Nat} :
    ((n + 2) / 3 + lines / 4) * 3 - n = 0 ↔ n % 3 = 0 ∧ lines < 4 := by omega

/-- A zero is left for every padding character, and three for every four line ends. -/
theorem decoded_eq (decodes : stdEncoding.decodeString src = .ok d) :
    decoded src = .ok (d ++ List.replicate (src.count 61 + src.countP lineEnd / 4 * 3) 0) := by
  have length := Encoding.length_decodeString rfl decodes
  have lines := length_eq_unwrap src
  have room : decodedLen src.length - d.length = src.count 61 + src.countP lineEnd / 4 * 3 := by
    unfold decodedLen
    omega
  rw [decoded, decodes, ← room]
  rfl

theorem writeToFileWithBase64Decoding_of_decoded {dst : List UInt8}
    (readable : files.contents srcFile = .ok src) (writable : files.refused destFile = none)
    (result : decoded src = .ok dst) :
    writeToFileWithBase64Decoding destFile srcFile files = (none, files.put destFile dst) := by
  simp [writeToFileWithBase64Decoding, readFile, readable, result, writeToFile, writable,
    Data.written]

theorem writeToFileWithBase64Decoding_of_malformed (destFile : String)
    (readable : files.contents srcFile = .ok src)
    (malformed : ¬ stdEncoding.WellFormed (unwrap src)) :
    ∃ err, writeToFileWithBase64Decoding destFile srcFile files = (some err, files) := by
  cases out : stdEncoding.decodeString src with
  | ok out' => exact absurd (Encoding.decodeString_ok_iff.mp ⟨out', out⟩) malformed
  | error err =>
    have failed : decoded src = .error err := by rw [decoded, out]; rfl
    exact ⟨"decode error: " ++ err, by simp [writeToFileWithBase64Decoding, readFile, readable,
      failed]⟩

theorem writeToFileWithBase64Decoding_decodes_iff (readable : files.contents srcFile = .ok src)
    (writable : files.refused destFile = none) :
    Decodes files destFile srcFile src ↔
      ∀ d, unwrap src = stdEncoding.encodeToString d → d.length % 3 = 0 ∧
      src.countP lineEnd < 4 := by
  have exact_iff (d) (encodes : unwrap src = stdEncoding.encodeToString d) :
      (writeToFileWithBase64Decoding destFile srcFile files).1 = none ∧
        (writeToFileWithBase64Decoding destFile srcFile files).2.contents destFile = .ok d ↔
      d.length % 3 = 0 ∧ src.countP lineEnd < 4 := by
    rw [writeToFileWithBase64Decoding_of_decoded readable writable (decoded_of_encoding encodes),
      ← spare_eq_zero]
    simp [Files.put]
  have kept (malformed : ¬ stdEncoding.WellFormed (unwrap src)) :
      (writeToFileWithBase64Decoding destFile srcFile files).1 ≠ none ∧
        (writeToFileWithBase64Decoding destFile srcFile files).2.contents destFile = files.contents destFile := by
    obtain ⟨err, outcome⟩ := writeToFileWithBase64Decoding_of_malformed destFile readable malformed
    simp [outcome]
  constructor
  · intro decodes d encodes
    exact (exact_iff d encodes).mp (decodes.1 d encodes)
  · intro spare
    exact ⟨fun d encodes => (exact_iff d encodes).mpr (spare d encodes), kept⟩

/-- There is one file, and every path can be written. -/
def holding (filename : String) (text : List UInt8) : Files where
  contents path := if path = filename then .ok text
    else .error ("open " ++ path ++ ": no such file or directory")
  refused _ := none

theorem holding_contents (filename : String) (text : List UInt8) :
    (holding filename text).contents filename = .ok text :=
  if_pos rfl

theorem writeToFileWithBase64Decoding_decodes_three :
    Decodes (holding "config.b64" (ascii "aGVs")) "config" "config.b64" (ascii "aGVs") := by
  have encoding :
    unwrap (ascii "aGVs") = stdEncoding.encodeToString (ascii "hel") := by decide +kernel
  refine (writeToFileWithBase64Decoding_decodes_iff (holding_contents _ _) rfl).mpr fun d
    encodes => ?_
  have same : d = ascii "hel" := Except.ok.inj <| by
    rw [← Encoding.decodeString_encodeToString d, ← encodes, encoding,
      Encoding.decodeString_encodeToString]
  subst same
  decide +kernel

/-- One zero is left in the buffer behind the five bytes of the file. -/
theorem short_quantum_leaves_zero :
    let files := holding "config.b64" (ascii "aGVsbG8=")
    unwrap (ascii "aGVsbG8=") = stdEncoding.encodeToString (ascii "hello") ∧
      (writeToFileWithBase64Decoding "config" "config.b64" files).1 = none ∧
      (writeToFileWithBase64Decoding "config" "config.b64" files).2.contents "config" =
      .ok (ascii "hello" ++ [0]) ∧ ¬ Decodes files "config" "config.b64" (ascii "aGVsbG8=") := by
  intro files
  have encoding :
    unwrap (ascii "aGVsbG8=") = stdEncoding.encodeToString (ascii "hello") := by decide +kernel
  have outcome : writeToFileWithBase64Decoding "config" "config.b64" files =
      (none, files.put "config" (ascii "hello" ++ [0])) := by
    rw [writeToFileWithBase64Decoding_of_decoded (holding_contents _ _) rfl
      (decoded_of_encoding encoding)]
    rfl
  have kept : (writeToFileWithBase64Decoding "config" "config.b64" files).2.contents "config" =
      .ok (ascii "hello" ++ [0]) := by
    simp [outcome, Files.put]
  refine ⟨encoding, by rw [outcome], kept, fun decodes => ?_⟩
  have whole : Except.ok (ascii "hello" ++ [0]) = .ok (ascii "hello") :=
    kept.symm.trans (decodes.1 (ascii "hello") encoding).2
  simpa using congrArg List.length (Except.ok.inj whole)

end Nodelet.Fileio
