import Mathlib.Data.List.Induction
import Mathlib.Tactic.Common

/-! Paths of files. A path is cleaned lexically: empty parts and dots are dropped, and a part that
is followed by two dots goes with them. What a path names does not change by that. -/
namespace Go.Filepath

abbrev Part := List Char

def dot : Part := ['.']
def parent : Part := ['.', '.']

/-- The parts so far, the last one first, with one more. There is nothing above the root. -/
def push (rooted : Bool) (done : List Part) (part : Part) : List Part :=
  if part = [] ∨ part = dot then done
  else if part = parent then
    match done with
    | [] => if rooted then [] else [parent]
    | last :: rest => if last = parent then parent :: last :: rest else rest
  else part :: done

def resolve (rooted : Bool) (done parts : List Part) : List Part := parts.foldl (push rooted) done

def split (path : String) : List Part := path.toList.splitOn '/'

def isAbs (path : String) : Bool := path.toList.head? = some '/'

def render (rooted : Bool) (done : List Part) : String :=
  if done = [] then if rooted then "/" else "."
  else String.ofList ((if rooted then ['/'] else []) ++ ['/'].intercalate done.reverse)

def clean (path : String) : String := render (isAbs path) (resolve (isAbs path) [] (split path))

/-- Empty elements in front are skipped. -/
def join (elems : List String) : String :=
  match elems.dropWhile (· = "") with
  | [] => ""
  | rest => clean ("/".intercalate rest)

/-- What a path names in a working directory: the parts below the root, the last one first. -/
def named (cwd : List Part) (path : String) : List Part :=
    resolve true (if isAbs path then [] else cwd) (split path)

section Parts

/-- A part that stays where it is put. -/
structure Plain (part : Part) : Prop where
  ne_nil : part ≠ []
  ne_dot : part ≠ dot
  no_slash : '/' ∉ part

theorem push_plain (plain : Plain part) (other : part ≠ parent) (rooted : Bool) (done : List Part) :
    push rooted done part = part :: done := by
  simp [push, plain.ne_nil, plain.ne_dot, other]

theorem push_parents (rooted : Bool) (done : List Part) :
    push rooted (parent :: done) parent = parent :: parent :: done := rfl

theorem push_parent {last : Part} (other : last ≠ parent) (rooted : Bool) (done : List Part) :
    push rooted (last :: done) parent = done := if_neg other

variable {done : List Part} {rooted : Bool} {first : String}

theorem mem_push (member : p ∈ push rooted done part) :
    p ∈ done ∨ p = part ∧ part ≠ [] ∧ part ≠ dot := by
  unfold push at member
  split at member
  · exact .inl member
  · rename_i stays
    obtain ⟨ne_nil, ne_dot⟩ := not_or.mp stays
    split at member
    · rename_i up
      cases done with
      | nil => cases rooted <;> simp_all
      | cons last rest => grind
    · obtain rfl | before := List.mem_cons.mp member
      · exact .inr ⟨rfl, ne_nil, ne_dot⟩
      · exact .inl before

variable {done parts : List Part}

theorem plain_resolve (noSlash : ∀ p ∈ parts, '/' ∉ p)
    (plain : ∀ p ∈ done, Plain p) : ∀ p ∈ resolve rooted done parts, Plain p := by
  induction parts generalizing done with
  | nil => exact plain
  | cons part rest ih =>
    obtain ⟨here, later⟩ := List.forall_mem_cons.mp noSlash
    refine ih later fun p member => ?_
    obtain before | ⟨rfl, ne_nil, ne_dot⟩ := mem_push member
    · exact plain p before
    · exact ⟨ne_nil, ne_dot, here⟩

theorem resolve_append (rooted : Bool) (done parts more : List Part) :
    resolve rooted done (parts ++ more) = resolve rooted (resolve rooted done parts) more :=
      List.foldl_append

theorem resolve_concat (rooted : Bool) (done parts : List Part) (part : Part) :
    resolve rooted done (parts ++ [part]) = push rooted (resolve rooted done parts) part :=
      resolve_append ..

/-- To go where some parts lead is to go where they lead once they have been resolved. -/
theorem resolve_resolve (start : rooted = false ∨ done = []) (noSlash : ∀ p ∈ parts, '/' ∉ p) :
    resolve true done (resolve rooted [] parts).reverse = resolve true done parts := by
  induction parts using List.reverseRecOn with
  | nil => rfl
  | append_singleton parts part ih =>
    obtain ⟨before, -⟩ := List.forall_mem_append.mp noSlash
    have plain : ∀ p ∈ resolve rooted [] parts, Plain p :=
      plain_resolve before (List.forall_mem_nil _)
    rw [resolve_concat, resolve_concat, ← ih before]
    generalize resolve rooted [] parts = inner at plain
    by_cases gone : part = [] ∨ part = dot
    · simp only [push, if_pos gone]
    by_cases up : part = parent
    · subst up
      cases inner with
      | nil =>
        cases rooted with
        | false => rfl
        | true =>
          obtain rfl := start.resolve_left Bool.noConfusion
          rfl
      | cons last rest =>
        obtain ⟨top, -⟩ := List.forall_mem_cons.mp plain
        by_cases parents : last = parent
        · rw [parents, push_parents, List.reverse_cons, resolve_concat]
        · rw [push_parent parents, List.reverse_cons, resolve_concat, push_plain top parents, push_parent parents]
    · have stays (r : Bool) (done : List Part) : push r done part = part :: done := by simp [push, gone, up]
      rw [stays rooted, List.reverse_cons, resolve_concat]

end Parts

section Split

theorem no_slash_of_mem_split {path : List Char} (member : p ∈ path.splitOn '/') : '/' ∉ p := by
  induction path generalizing p with
  | nil => simp_all
  | cons c rest ih =>
    rw [List.splitOn_cons_eq_if_modifyHead] at member
    split at member
    · obtain rfl | later := List.mem_cons.mp member
      · exact List.not_mem_nil
      · exact ih later
    · rename_i other
      cases parts : rest.splitOn '/' with
      | nil => exact absurd parts (List.splitOn_ne_nil '/' rest)
      | cons first others =>
        rw [parts, List.modifyHead_cons] at member
        obtain rfl | later := List.mem_cons.mp member
        · have kept := ih (parts ▸ List.mem_cons_self)
          grind
        · exact ih (parts ▸ List.mem_cons_of_mem _ later)

theorem split_intercalate (first : String) (rest : List String) :
    split ("/".intercalate (first :: rest)) = (first :: rest).flatMap split := by
  have lists (first : List Char) (rest : List (List Char)) :
      (['/'].intercalate (first :: rest)).splitOn '/' = (first :: rest).flatMap (·.splitOn '/') := by
    induction rest generalizing first with
    | nil => simp
    | cons second rest ih =>
      rw [List.intercalate_cons_of_ne_nil (List.cons_ne_nil _ _), List.append_assoc,
        List.singleton_append, List.splitOn_append_cons_self, ih]
      rfl
  simp only [split, String.toList_intercalate, List.map_cons]
  rw [show "/".toList = ['/'] from rfl, lists, ← List.map_cons, List.flatMap_map]
  rfl

theorem isAbs_intercalate (given : first ≠ "") (rest : List String) :
    isAbs ("/".intercalate (first :: rest)) = isAbs first := by
  obtain ⟨c, cs, chars⟩ : ∃ c cs, first.toList = c :: cs :=
    List.exists_cons_of_ne_nil (by simpa using given)
  simp only [isAbs, String.toList_intercalate, List.map_cons, chars,
    List.intercalate_cons_cons_left, List.head?_cons]

theorem render_ne_empty (plain : ∀ p ∈ done, Plain p) : render rooted done ≠ "" := by
  cases done with
  | nil => cases rooted <;> simp [render]
  | cons last rest =>
    cases parts : (last :: rest).reverse with
    | nil => simp at parts
    | cons first others =>
      have member : first ∈ last :: rest := List.mem_reverse.mp (parts ▸ List.mem_cons_self)
      obtain ⟨c, cs, rfl⟩ := List.exists_cons_of_ne_nil (plain _ member).ne_nil
      cases rooted <;> simp [render, parts, List.intercalate_cons_cons_left, ← String.toList_inj]

theorem isAbs_render (plain : ∀ p ∈ done, Plain p) : isAbs (render rooted done) = rooted := by
  cases parts : done.reverse with
  | nil =>
    obtain rfl := List.reverse_eq_nil_iff.mp parts
    cases rooted <;> rfl
  | cons first others =>
    have nonempty : done ≠ [] := by
      rintro rfl
      contradiction
    have here := plain first (List.mem_reverse.mp (parts ▸ List.mem_cons_self))
    obtain ⟨c, cs, rfl⟩ := List.exists_cons_of_ne_nil here.ne_nil
    have other : c ≠ '/' := by
      rintro rfl
      exact here.no_slash List.mem_cons_self
    cases rooted <;> simp [render, isAbs, nonempty, parts, List.intercalate_cons_cons_left, other]

theorem join_cons (given : first ≠ "") (rest : List String) :
    join (first :: rest) = clean ("/".intercalate (first :: rest)) := by
  rw [join, List.dropWhile_cons_of_neg (by simpa using given)]

theorem plain_split (rooted : Bool) (path : String) :
    ∀ p ∈ resolve rooted [] (split path), Plain p :=
  plain_resolve (fun _ => no_slash_of_mem_split) (List.forall_mem_nil _)

theorem isAbs_join (given : first ≠ "") (rest : List String) :
    isAbs (join (first :: rest)) = isAbs first := by
  rw [join_cons given, clean, isAbs_render (plain_split _ _), isAbs_intercalate given]

theorem join_ne_empty (given : first ≠ "") (rest : List String) : join (first :: rest) ≠ "" := by
  rw [join_cons given]
  exact render_ne_empty (plain_split _ _)

end Split

section Named
variable (cwd : List Part)

/-- The parts of a path that has been cleaned lead where they led before. -/
theorem resolve_split_render (start : List Part) (plain : ∀ p ∈ done, Plain p) :
    resolve true start (split (render rooted done)) = resolve true start done.reverse := by
  by_cases empty : done = []
  · subst empty
    cases rooted <;> rfl
  · have parts : (['/'].intercalate done.reverse).splitOn '/' = done.reverse :=
      List.splitOn_intercalate '/' (fun p member =>
        (plain p (List.mem_reverse.mp member)).no_slash) (by simpa using empty)
    cases rooted with
    | false => simp [render, split, empty, parts]
    | true =>
      have cut := List.splitOn_append_cons_self (a := '/') [] (['/'].intercalate done.reverse)
      rw [List.nil_append, parts] at cut
      simp only [render, split, empty, String.toList_ofList, if_true, if_false, List.singleton_append, cut]
      rfl

theorem named_render (plain : ∀ p ∈ done, Plain p) :
    named cwd (render rooted done) = resolve true (if rooted then [] else cwd) done.reverse := by
  rw [named, isAbs_render plain, resolve_split_render _ plain]

theorem named_clean (path : String) : named cwd (clean path) = named cwd path := by
  rw [clean, named_render cwd (plain_split _ _)]
  refine resolve_resolve ?_ fun _ => no_slash_of_mem_split
  cases isAbs path <;> simp

/-- What is joined to a path is looked up from there. -/
theorem named_join (given : first ≠ "") (rest : List String) :
    named cwd (join (first :: rest)) = resolve true (named cwd first) (rest.flatMap split) := by
  rw [join_cons given, named_clean, named, isAbs_intercalate given, split_intercalate,
    List.flatMap_cons, resolve_append]
  rfl

/-- The file of this name in a directory, which is the working directory where it is empty. -/
theorem named_join_file (dir : String) {file : String} (plain : Plain file.toList)
    (other : file.toList ≠ parent) :
    named cwd (join [dir, file]) = file.toList :: named cwd dir := by
  have parts : split file = [file.toList] := List.splitOn_eq_singleton plain.no_slash
  by_cases given : dir = ""
  · obtain ⟨c, cs, chars⟩ := List.exists_cons_of_ne_nil plain.ne_nil
    have nonempty : file ≠ "" := by
      rintro rfl
      contradiction
    have relative : isAbs file = false := by
      have := plain.no_slash
      simp_all [isAbs]
      grind
    have skipped : join [dir, file] = join [file] := by simp [join, given, nonempty]
    rw [skipped, named_join cwd nonempty, given, named, relative, parts]
    exact push_plain plain other ..
  · rw [named_join cwd given, List.flatMap_cons, List.flatMap_nil, List.append_nil, parts]
    exact push_plain plain other ..

end Named
end Go.Filepath
