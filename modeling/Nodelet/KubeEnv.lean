import Nodelet.Go.Map
import Nodelet.Sunpike.Host
import Mathlib.Data.Finset.Sort
import Mathlib.Data.String.Basic

/-! The key-value mapping behind `kube.env`: how a host is turned into one, and how
it is written. -/
namespace Nodelet
open Sunpike

abbrev KubeEnvMap := Go.Map String String

def hostIDKey := "HOSTID"

/-- `%v` of a 32-bit integer that was converted to `float64`: the shortest digits,
with an exponent from a million on. -/
def formatFloat (v : Int) : String :=
  let digits := (toString v.natAbs).toList
  if digits.length ≤ 6 then toString v
  else
    let mantissa := (digits.reverse.dropWhile (· = '0')).reverse
    let fraction := if mantissa.tail.isEmpty then "" else "." ++ String.ofList mantissa.tail
    (if v < 0 then "-" else "") ++ String.ofList (mantissa.take 1) ++ fraction ++
      "e+0" ++ toString (digits.length - 1)

mutual

/-- One field by its kind: structures are entered, maps are skipped. -/
def fieldToKubeEnvMap : Field → KubeEnvMap → KubeEnvMap
  | .string tag value, kubeEnv => kubeEnv.insert tag value
  | .int32 tag value, kubeEnv => kubeEnv.insert tag (formatFloat value.toInt)
  | .bool tag value, kubeEnv => kubeEnv.insert tag (toString value)
  | .struct fields, kubeEnv => structToKubeEnvMap fields kubeEnv
  | .map, kubeEnv => kubeEnv

def structToKubeEnvMap : List Field → KubeEnvMap → KubeEnvMap
  | [], kubeEnv => kubeEnv
  | field :: rest, kubeEnv => structToKubeEnvMap rest (fieldToKubeEnvMap field kubeEnv)

end

/-- The keys that `ExtraCfg` cannot override, with their values. -/
def formalKubeEnv (host : Host) : KubeEnvMap :=
  (structToKubeEnvMap host.spec.fields ∅).insert hostIDKey host.name

/-- `ConvertHostToKubeEnvMap`, where the loop over `ExtraCfg` visits its entries in
this order. Upper-casing is a parameter: nothing depends on its table. -/
def convertHostToKubeEnvMap (toUpper : String → String) (host : Host)
    (order : List (String × String)) : KubeEnvMap :=
  Go.Map.fillAbsent (fun entry => toUpper entry.1) Prod.snd (formalKubeEnv host) order

/-- The entries of `ExtraCfg`; a nil map has none. -/
def extraEntries (host : Host) : List (String × String) :=
  match host.spec.extraCfg with
  | some extraCfg => extraCfg.entries
  | none => []

/-- An order in which a loop over `ExtraCfg` can visit its entries. -/
def Iterates (host : Host) (order : List (String × String)) : Prop :=
  order.Perm (extraEntries host)

/-- Two keys of `ExtraCfg` that only differ in case, and that no field of the host
claims, have the same value. -/
def ExtraKeysAgree (toUpper : String → String) (host : Host) : Prop :=
  Go.Map.Agree (fun entry => toUpper entry.1) Prod.snd (formalKubeEnv host) (extraEntries host)

/-- The host is always part of the map. -/
theorem convertHostToKubeEnvMap_ne_empty (toUpper : String → String) (host : Host)
    (order : List (String × String)) : convertHostToKubeEnvMap toUpper host order ≠ ∅ := by
  intro empty
  have found : (convertHostToKubeEnvMap toUpper host order).lookup hostIDKey = some host.name := by
    rw [convertHostToKubeEnvMap, Go.Map.lookup_fillAbsent, formalKubeEnv, Finmap.lookup_insert]
    rfl
  rw [empty] at found
  contradiction

namespace KubeEnvMap

/-- `Keys`: sorted alphabetically. -/
def keys (k : KubeEnvMap) : List String := (Finmap.keys k).sort (· ≤ ·)

theorem mem_keys {key : String} : key ∈ keys k ↔ key ∈ k := by
  rw [keys, Finset.mem_sort, Finmap.mem_keys]

def charsToEscapeInVarExport : List Char := "\"'\x60\\$".toList

/-- A backslash before each character the shell would interpret. -/
def escapeChars (s : String) : String :=
  String.ofList (s.toList.flatMap fun c => if c ∈ charsToEscapeInVarExport then ['\\', c] else [c])

def escapeNewlines (s : String) : String :=
  String.ofList (s.toList.flatMap fun c => if c = '\n' then ['\\', 'n'] else [c])

/-- `unicode.IsSpace`. -/
def isSpace (c : Char) : Bool :=
  c.toNat ∈ [0x20, 0x85, 0xA0, 0x1680, 0x2028, 0x2029, 0x202F, 0x205F, 0x3000] ∨
    0x09 ≤ c.toNat ∧ c.toNat ≤ 0x0D ∨ 0x2000 ≤ c.toNat ∧ c.toNat ≤ 0x200A

def trimSpace (s : String) : String :=
  String.ofList ((s.toList.dropWhile isSpace).reverse.dropWhile isSpace).reverse

/-- The line of one key. -/
def exportLine (key value : String) : String :=
  "export " ++ trimSpace key ++ "=\"" ++ escapeNewlines (escapeChars value) ++ "\"\n"

/-- The lines `ToKubeEnv` writes, one after the other. -/
def toKubeEnv (k : KubeEnvMap) : List String :=
  (keys k).map fun key => exportLine key ((k.lookup key).getD "")

end KubeEnvMap
end Nodelet
