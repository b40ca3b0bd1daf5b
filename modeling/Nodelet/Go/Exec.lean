import Nodelet.Go.Keyed
import Mathlib.Data.List.TakeWhile
import Mathlib.Data.String.Basic

/-! The environment of a process that `os/exec` starts: a list of entries, each split at its first
equals sign. Of the entries of one name the parent reads the first and passes on the last. -/
namespace Go.Exec

/-- The name and the value of an entry. -/
def cut (entry : String) : Option (String × String) :=
  if '=' ∈ entry.toList then
    some (String.ofList (entry.toList.takeWhile (· ≠ '=')),
      String.ofList ((entry.toList.dropWhile (· ≠ '=')).drop 1))
  else none

def nameOf (entry : String) : Option String := (cut entry).map Prod.fst

/-- The value of a variable in an entry. -/
def valueIn (name entry : String) : Option String := ((cut entry).filter (·.1 = name)).map Prod.snd

def lookup (env : List String) (name : String) : Option String := env.findSome? (valueIn name)

/-- `os.Environ`. Only the first entry of a name is kept, and no empty entry. -/
def environFrom : List String → List String → List String
  | _, [] => []
  | seen, entry :: rest =>
    match nameOf entry with
    | none => if entry = "" then environFrom seen rest else entry :: environFrom seen rest
    | some name => if name ∈ seen then environFrom seen rest
      else entry :: environFrom (name :: seen) rest

def environ (envs : List String) : List String := environFrom [] envs

/-- One entry of `dedupEnv`: the last entry of a name takes the place of the first. -/
def dedupEntry (out : List String) (entry : String) : List String :=
  match nameOf entry with
  | none => out ++ [entry]
  | some _ => Keyed.put nameOf entry out

def dedupEnv (env : List String) : List String := env.foldl dedupEntry []

/-- The entries that the parent was started with, or has set since. A text that has a zero byte
cannot be among them. -/
structure Environment where
  entries : List String
  clean : ∀ entry ∈ entries, '\x00' ∉ entry.toList

structure Cmd where
  path : String
  args : List String
  /-- Nil stands for the environment of the parent. -/
  env : Option (List String)
  dir : String
  timeout : Option Int
  deriving DecidableEq, Repr

def Cmd.envv (parent : Environment) (cmd : Cmd) : List String :=
    dedupEnv (cmd.env.getD (environ parent.entries))

/-- The environment of the child. None is started where a text has a zero byte. -/
def Cmd.start (parent : Environment) (cmd : Cmd) : Option (List String) :=
  if ∀ text ∈ cmd.path :: cmd.dir :: (cmd.args ++ cmd.envv parent),
    '\x00' ∉ text.toList then some (cmd.envv parent)
    else none

section Entries
variable {entry k v name value : String}

theorem cut_eq_some (free : '=' ∉ k.toList) : cut (k ++ "=" ++ v) = some (k, v) := by
  have text : (k ++ "=" ++ v).toList = k.toList ++ '=' :: v.toList := by simp
  have before : ∀ c ∈ k.toList, (decide (c ≠ '=')) = true := by
    intro c member
    exact decide_eq_true fun same => free (same ▸ member)
  unfold cut
  rw [text, if_pos (by simp), List.takeWhile_append_of_pos before,
    List.dropWhile_append_of_pos before]
  simp

theorem exists_cut (k v : String) : ∃ name value, cut (k ++ "=" ++ v) = some (name, value) :=
  ⟨_, _, if_pos (by simp)⟩

theorem free_of_cut (parts : cut entry = some (name, value)) : '=' ∉ name.toList := by
  unfold cut at parts
  split at parts
  · cases parts
    intro member
    rw [String.toList_ofList] at member
    simpa using List.mem_takeWhile_imp member
  · contradiction

theorem nameOf_of_cut (parts : cut entry = some (name, value)) : nameOf entry = some name := by
  rw [nameOf, parts]
  rfl

theorem valueIn_eq_some : valueIn name entry = some value ↔ cut entry = some (name, value) := by
  unfold valueIn
  rw [Option.map_eq_some_iff]
  constructor
  · rintro ⟨⟨_, _⟩, found, rfl⟩
    obtain ⟨parts, same⟩ := Option.filter_eq_some_iff.mp found
    obtain rfl := of_decide_eq_true same
    exact parts
  · intro parts
    exact ⟨(name, value), Option.filter_eq_some_iff.mpr ⟨parts, decide_eq_true rfl⟩, rfl⟩

theorem valueIn_eq_none (other : nameOf entry ≠ some name) : valueIn name entry = none := by
  rw [Option.eq_none_iff_forall_ne_some]
  intro value found
  exact other (nameOf_of_cut (valueIn_eq_some.mp found))

end Entries

section Lookup
variable {env out : List String} {name value : String}

theorem free_of_lookup (found : lookup env name = some value) : '=' ∉ name.toList := by
  obtain ⟨entry, -, found⟩ := List.exists_of_findSome?_eq_some found
  exact free_of_cut (valueIn_eq_some.mp found)

theorem lookup_cons (name entry : String) (env : List String) :
    lookup (entry :: env) name = (valueIn name entry).or (lookup env name) := by
  rw [lookup, List.findSome?_cons]
  cases valueIn name entry with
  | none => rfl
  | some value => rfl

theorem lookup_append (name : String) (first second : List String) :
    lookup (first ++ second) name = (lookup first name).or (lookup second name) :=
  List.findSome?_append

theorem lookup_eq_none (absent : some name ∉ env.map nameOf) : lookup env name = none := by
  apply List.findSome?_eq_none_iff.mpr
  intro entry member
  exact valueIn_eq_none fun same => absent (same ▸ List.mem_map_of_mem member)

theorem lookup_environFrom (name : String) (seen env : List String) :
    lookup (environFrom seen env) name = if name ∈ seen then none else lookup env name := by
  induction env generalizing seen with
  | nil => simp [environFrom, lookup]
  | cons entry rest ih =>
    rw [lookup_cons]
    cases named : nameOf entry with
    | none =>
      have unnamed : valueIn name entry = none := valueIn_eq_none (by simp [named])
      simp only [environFrom, named, unnamed, Option.none_or]
      split
      · exact ih seen
      · rw [lookup_cons, unnamed, Option.none_or, ih]
    | some other =>
      simp only [environFrom, named]
      by_cases same : other = name
      · subst same
        obtain ⟨⟨_, value⟩, parts, rfl⟩ := Option.map_eq_some_iff.mp named
        have found := valueIn_eq_some.mpr parts
        split
        · rw [ih]
          simp [*]
        · rw [lookup_cons, found]
          simp [*]
      · have unnamed : valueIn name entry = none := valueIn_eq_none (by simp [named, same])
        split
        · rw [ih, unnamed, Option.none_or]
        · rw [lookup_cons, unnamed, Option.none_or, ih]
          simp [Ne.symm same]

theorem lookup_environ (name : String) (env : List String) :
    lookup (environ env) name = lookup env name := by
  simp [environ, lookup_environFrom]

theorem environFrom_sublist (seen env : List String) : (environFrom seen env).Sublist env := by
  induction env generalizing seen with
  | nil => exact .slnil
  | cons entry rest ih =>
    unfold environFrom
    split
    · split
      · exact (ih _).cons _
      · exact (ih _).cons_cons _
    · split
      · exact (ih _).cons _
      · exact (ih _).cons_cons _

/-- Each name is that of one entry. -/
def Distinct (env : List String) : Prop := (env.filterMap nameOf).Nodup

theorem environFrom_distinct (seen env : List String) :
    Distinct (environFrom seen env) ∧
      ∀ name ∈ seen, some name ∉ (environFrom seen env).map nameOf := by
  induction env generalizing seen with
  | nil => simp [environFrom, Distinct]
  | cons entry rest ih =>
    unfold environFrom
    split
    · rename_i named
      split
      · exact ih seen
      · simpa [Distinct, named] using ih seen
    · rename_i name named
      split
      · exact ih seen
      · rename_i fresh
        obtain ⟨distinct, apart⟩ := ih (name :: seen)
        have alone : name ∉ (environFrom (name :: seen) rest).filterMap nameOf := by
          simpa [List.mem_filterMap] using apart name List.mem_cons_self
        constructor
        · rw [Distinct, List.filterMap_cons_some named]
          exact List.nodup_cons.mpr ⟨alone, distinct⟩
        · intro other member
          rw [List.map_cons, named, List.mem_cons, not_or]
          refine ⟨?_, apart other (List.mem_cons_of_mem _ member)⟩
          rintro ⟨⟩
          exact fresh member

variable {entry : String}

theorem dedupEntry_of_distinct {rest : List String} (distinct : Distinct (out ++ entry :: rest)) :
    dedupEntry out entry = out ++ [entry] := by
  unfold dedupEntry
  split
  · rfl
  · rename_i name named
    have free : nameOf entry ∉ out.map nameOf := by
      intro taken
      obtain ⟨other, member, same⟩ := List.mem_map.mp taken
      have inside : name ∈ out.filterMap nameOf := List.mem_filterMap.mpr ⟨other, member, same.trans named⟩
      rw [Distinct, List.filterMap_append, List.filterMap_cons_some named] at distinct
      exact (List.nodup_append.mp distinct).2.2 name inside name List.mem_cons_self rfl
    exact if_neg free

theorem dedupEnv_of_distinct (distinct : Distinct env) : dedupEnv env = env := by
  have append (rest : List String) : ∀ out, Distinct (out ++ rest) →
      rest.foldl dedupEntry out = out ++ rest := by
    induction rest with
    | nil => intro out _; simp
    | cons entry rest ih =>
      intro out distinct
      rw [List.foldl_cons, dedupEntry_of_distinct distinct, ih _ (by simpa using distinct)]
      simp
  exact append env [] distinct

variable {entry k v : String}

theorem lookup_replace (parts : cut entry = some (k, v)) (name : String) (env : List String) :
    lookup (env.map fun other => if nameOf other = nameOf entry then entry else other) name =
      if k = name ∧ nameOf entry ∈ env.map nameOf then some v else lookup env name := by
  have named := nameOf_of_cut parts
  induction env with
  | nil => simp [lookup]
  | cons first rest ih =>
    rw [List.map_cons, lookup_cons, lookup_cons, ih, List.map_cons]
    by_cases here : k = name
    · subst here
      by_cases same : nameOf first = nameOf entry
      · simp [same, valueIn_eq_some.mpr parts]
      · have other : valueIn k first = none := valueIn_eq_none (named ▸ same)
        simp [same, Ne.symm same, other]
    · have unread : valueIn name (if nameOf first = nameOf entry then entry else first) = valueIn name first := by
        split
        · rename_i same
          rw [valueIn_eq_none (by simp [named, here]), valueIn_eq_none (by simp [same, named, here])]
        · rfl
      simp [here, unread]

theorem lookup_put (parts : cut entry = some (k, v)) (name : String) (env : List String) :
    lookup (Keyed.put nameOf entry env) name = if k = name then some v else lookup env name := by
  have named := nameOf_of_cut parts
  unfold Keyed.put
  split
  · rename_i taken
    rw [lookup_replace parts]
    simp [taken]
  · rename_i free
    have last : lookup [entry] name = if k = name then some v else none := by
      rw [lookup_cons]
      split
      · rename_i same
        rw [valueIn_eq_some.mpr (same ▸ parts), Option.some_or]
      · rename_i other
        rw [valueIn_eq_none (by simp [named, other])]
        rfl
    rw [lookup_append, last]
    split
    · rename_i same
      rw [lookup_eq_none (same ▸ named ▸ free), Option.none_or]
    · rw [Option.or_none]

theorem dedupEnv_environ (env : List String) : dedupEnv (environ env) = environ env :=
  dedupEnv_of_distinct (environFrom_distinct [] env).1

theorem dedupEnv_concat (named : nameOf entry = some name) (env : List String) :
    dedupEnv (environ env ++ [entry]) = Keyed.put nameOf entry (environ env) := by
  rw [dedupEnv, List.foldl_append, ← dedupEnv, dedupEnv_environ]
  simp [dedupEntry, named]

end Lookup

section Start
variable {parent : Environment} {cmd : Cmd} {child : List String}

theorem Cmd.start_eq_some : cmd.start parent = some child ↔ child = cmd.envv parent ∧
    ∀ text ∈ cmd.path :: cmd.dir :: (cmd.args ++ cmd.envv parent), '\x00' ∉ text.toList := by
  unfold Cmd.start
  split_ifs with clean
  · rw [Option.some.injEq, eq_comm, and_iff_left clean]
  · constructor
    · intro none
      contradiction
    · rintro ⟨-, all⟩
      exact absurd all clean

theorem Environment.clean_environ (parent : Environment) (member : entry ∈ environ parent.entries) :
    '\x00' ∉ entry.toList :=
  parent.clean entry ((environFrom_sublist [] _).subset member)

end Start

end Go.Exec
