import Nodelet.Go.Fields
import Nodelet.Go.Lines
import Nodelet.Go.Map
import Nodelet.Go.Net
import Nodelet.Go.Program

/-! The hosts that `EnsureDns` gives to CoreDNS. The hosts file is read line by line into a map from
addresses to the rest of the line, so that a line hides the earlier ones of its address. -/
namespace Nodelet.Kubeutils
open Go.Net (parseIP)
open Go.Map (lastValue)

/-- The address of a line and what comes after the first space. -/
def hostEntry (entry : List Char) : Option (List Char × List Char) :=
  if entry.head? = some '#' then none
  else if ' ' ∉ entry then none
  else
    let address := entry.takeWhile (· ≠ ' ')
    if (parseIP address).isNone then none else some (address, (entry.dropWhile (· ≠ ' ')).drop 1)

def hostEntries (hostFileLines : List (List Char)) : Go.Map (List Char) (List Char) :=
  Go.Map.ofEntries (hostFileLines.filterMap hostEntry)

/-- What is given to the template. -/
structure DataToAdd where
  dnsIP : String
  k8sRegistry : String
  dnsEntries : Go.Map (List Char) (List Char)

/-- `constants.K8sRegistry` -/
def k8sRegistry : String := "registry.k8s.io"

/-- The data of the template. A hosts file that cannot be read counts as an empty one, and the
address of the service is empty where it cannot be computed. -/
def ensureDnsData (dnsIP : Except Go.Error String) (privateRegistry : String)
    (hostsFile : Except Go.Error (List Char)) :
    DataToAdd where
  dnsIP := dnsIP.toOption.getD ""
  k8sRegistry := if privateRegistry ≠ "" then privateRegistry else k8sRegistry
  dnsEntries := hostEntries ((hostsFile.toOption.map Go.readLines).getD [])

section Hosts

def isBlank (c : Char) : Bool := c = ' ' ∨ c = '\t'

/-- The address of a line of a hosts file, and its names. -/
def hostNames (line : List Char) : Option (List Char × List (List Char)) :=
  match Go.fieldsOf isBlank (line.takeWhile (· ≠ '#')) with
  | [] => none
  | address :: names => if (parseIP address).isNone then none else some (address, names)

/-- A line of the file has this name for the address. -/
def Lists (lines : List (List Char)) (address name : List Char) : Prop :=
  ∃ line ∈ lines, ∃ names, hostNames line = some (address, names) ∧ name ∈ names

/-- The name is under the address in what is given to the template. -/
def Gives (entries : Go.Map (List Char) (List Char)) (address name : List Char) : Prop :=
  ∃ text, entries.lookup address = some text ∧ name ∈ Go.fieldsOf isBlank text

/-- Where no line that is read begins with the address and a space, no line has a name for it;
otherwise the last one of them has no comment, and it has all names of the address. -/
def LastCovers (contents : List Char) : Prop := ∀ address,
  match lastValue ((Go.readLines contents).filterMap hostEntry) address with
  | none => ∀ name, ¬ Lists (Go.scanLines [] contents) address name
  | some text => '#' ∉ text ∧ ∀ name, Lists (Go.scanLines [] contents) address name →
    name ∈ Go.fieldsOf isBlank text

variable {line address text name : List Char}

theorem hostEntry_eq_some (found : hostEntry line = some (address, text)) :
    line = address ++ ' ' :: text ∧ (parseIP address).isSome := by
  unfold hostEntry at found
  obtain ⟨-, found⟩ := Option.ite_none_left_eq_some.mp found
  obtain ⟨space, found⟩ := Option.ite_none_left_eq_some.mp found
  obtain ⟨valid, same⟩ := Option.ite_none_left_eq_some.mp found
  obtain ⟨rfl, rfl⟩ := Prod.mk.inj (Option.some.inj same)
  exact ⟨Go.eq_takeWhile_append (not_not.mp space), by simpa [Option.isSome_iff_ne_none] using
    valid⟩

theorem plain_of_parseIP (valid : (parseIP address).isSome) :
    address ≠ [] ∧ (∀ c ∈ address, isBlank c = false) ∧ ∀ c ∈ address, c ≠ '#' := by
  obtain ⟨parsed, found⟩ := Option.isSome_iff_exists.mp valid
  obtain ⟨nonempty, chars⟩ := Go.Net.addressChar_of_parseIP found
  refine ⟨nonempty, ?_, ?_⟩
  · intro c member
    have char := chars c member
    apply decide_eq_false
    rintro (rfl | rfl)
    · exact absurd char (by decide)
    · exact absurd char (by decide)
  · rintro c member rfl
    exact absurd (chars _ member) (by decide)

theorem hostNames_of_hostEntry (found : hostEntry line = some (address, text))
    (plain : '#' ∉ text) : hostNames line = some (address, Go.fieldsOf isBlank text) := by
  obtain ⟨rfl, valid⟩ := hostEntry_eq_some found
  obtain ⟨nonempty, unblank, uncommented⟩ := plain_of_parseIP valid
  have whole : (address ++ ' ' :: text).takeWhile (· ≠ '#') = address ++ ' ' :: text := by
    rw [List.takeWhile_eq_self_iff]
    intro c member
    rw [decide_eq_true_eq]
    rintro rfl
    obtain here | later := List.mem_append.mp member
    · exact uncommented _ here rfl
    · obtain blank | inside := List.mem_cons.mp later
      · contradiction
      · exact plain inside
  rw [hostNames, whole, Go.fieldsOf_append nonempty unblank (by decide)]
  exact if_neg (by simpa [Option.isSome_iff_ne_none] using valid)

theorem plain_of_lists {lines : List (List Char)} (lists : Lists lines address name) :
    '#' ∉ name := by
  obtain ⟨line, -, names, found, member⟩ := lists
  unfold hostNames at found
  split at found
  · contradiction
  · rename_i first rest fields
    obtain ⟨-, same⟩ := Option.ite_none_left_eq_some.mp found
    obtain ⟨rfl, rfl⟩ := Prod.mk.inj (Option.some.inj same)
    intro mark
    have inside : name ∈ Go.fieldsOf isBlank (line.takeWhile (· ≠ '#')) :=
      fields ▸ List.mem_cons_of_mem _ member
    have kept := List.mem_takeWhile_imp (Go.mem_of_mem_fieldsOf inside mark)
    contradiction

theorem mem_scanLines_of_mem_readLines {contents : List Char}
    (member : line ∈ Go.readLines contents) : line ∈ Go.scanLines [] contents := by
  rw [Go.scanLines_eq]
  exact ((List.takeWhile_sublist _).map Go.dropCR).subset member

/-- The template gets the names of the file and nothing else exactly where the last line of each
address covers it. -/
theorem dnsEntries_iff (dnsIP : Except Go.Error String) (privateRegistry : String)
    (contents : List Char) :
    (∀ address name,
      Gives (ensureDnsData dnsIP privateRegistry (.ok contents)).dnsEntries address name ↔
      Lists (Go.scanLines [] contents) address name) ↔ LastCovers contents := by
  have looked (address : List Char) :
    (ensureDnsData dnsIP privateRegistry (.ok contents)).dnsEntries.lookup address =
      lastValue ((Go.readLines contents).filterMap hostEntry) address :=
    Go.Map.lookup_ofEntries _ address
  refine forall_congr' fun address => ?_
  simp only [Gives, looked]
  cases last : lastValue ((Go.readLines contents).filterMap hostEntry) address with
  | none => simp
  | some text =>
    obtain ⟨line, read, found⟩ := List.mem_filterMap.mp (Go.Map.mem_of_lastValue last)
    simp only [Option.some.injEq, exists_eq_left']
    constructor
    · intro same
      refine ⟨fun mark => ?_, fun name => (same name).mpr⟩
      obtain ⟨field, inside, holds⟩ := Go.exists_fieldsOf isBlank mark (by decide)
      exact plain_of_lists ((same field).mp inside) holds
    · rintro ⟨plain, covers⟩ name
      refine ⟨fun inside => ?_, covers name⟩
      exact ⟨line, mem_scanLines_of_mem_readLines read, _, hostNames_of_hostEntry found plain, inside⟩

/-- Two of the lines of the example in the documentation. -/
def twoNames : List Char :=
    "10.21.2.141 airctl7-kplane.pf9.localnet\n10.21.2.141 airctl7.pf9.localnet\n".toList

/-- The second line hides the name of the first one. -/
theorem second_line_hides_first :
    Lists (Go.scanLines [] twoNames) "10.21.2.141".toList "airctl7-kplane.pf9.localnet".toList ∧
      ¬ Gives (ensureDnsData (.ok "10.20.0.10") "" (.ok twoNames)).dnsEntries "10.21.2.141".toList
        "airctl7-kplane.pf9.localnet".toList := by
  constructor
  · refine ⟨"10.21.2.141 airctl7-kplane.pf9.localnet".toList, by decide,
      ["airctl7-kplane.pf9.localnet".toList], by decide, by decide⟩
  · rintro ⟨text, found, inside⟩
    have last :
      (ensureDnsData (.ok "10.20.0.10") "" (.ok twoNames)).dnsEntries.lookup "10.21.2.141".toList =
      some "airctl7.pf9.localnet".toList := by decide
    obtain rfl := Option.some.inj (found.symm.trans last)
    exact absurd inside (by decide)

end Hosts

end Nodelet.Kubeutils
