import Nodelet.LoadImages

/-! When the phase reports success for images that have not been loaded. The checksum
file may run ahead of the images where a load fails, so the phase is sound only
while no call follows such a failure before the files change. -/
namespace Nodelet.LoadImages
open Go.Fallible (Ensures)

section Rules
variable {Data : Type} {path : String} {found after : Directory Data} {α β : Type}
  {program : Operation Data α} {post : α → Directory Data → Prop} {failed : Directory Data → Prop}

def Host.At (host : Host Data) (path : String) (P : Directory Data → Prop) : Prop :=
  ∃ found, host.directories path = some found ∧ P found

/-- From every host with this directory, the program leaves one with `post`, or with `failed`
where it returns an error. -/
def Works (path : String) (program : Operation Data α) (found : Directory Data)
    (post : α → Directory Data → Prop) (failed : Directory Data → Prop) : Prop :=
  ∀ host, host.directories path = some found →
    Ensures program host (fun value after => after.At path (post value)) (fun after =>
      after.At path failed)

namespace Works

theorem weaken {weaker : α → Directory Data → Prop} {weakerFailed : Directory Data → Prop}
    (works : Works path program found post failed)
    (implies : ∀ value after, post value after → weaker value after)
    (whenFailed : ∀ after, failed after → weakerFailed after) :
    Works path program found weaker weakerFailed :=
  fun host there => (works host there).weaken
    (fun value _ ⟨left, there, holds⟩ => ⟨left, there, implies value left holds⟩)
    fun _ ⟨left, there, holds⟩ => ⟨left, there, whenFailed left holds⟩

variable {final : β → Directory Data → Prop}

theorem bind {next : α → Operation Data β}
    (middle : α → Directory Data → Prop) (first : Works path program found middle failed)
    (rest : ∀ value after, middle value after → Works path (next value) after final failed) :
    Works path (program >>= next) found final failed :=
  fun host there => (first host there).bind fun value host' ⟨left, there', holds⟩ =>
    rest value left holds host' there'

theorem pure {value : α} (holds : post value found) : Works path (pure value) found post failed :=
  fun _ there => Ensures.pure ⟨found, there, holds⟩

theorem throw (holds : failed found) :
    Works path (throw err : Operation Data α) found post failed :=
  fun _ there => Ensures.throw ⟨found, there, holds⟩

theorem ite {condition : Prop} [Decidable condition] {yes no : Operation Data α}
    (whenTrue : condition → Works path yes found post failed)
    (whenFalse : ¬ condition → Works path no found post failed) :
    Works path (if condition then yes else no) found post failed :=
  fun host there => Ensures.ite (fun holds => whenTrue holds host there) fun fails =>
    whenFalse fails host there

theorem orFail {fault : Option Go.Error} {post : Unit → Directory Data → Prop}
    (holds : post () found)
    (otherwise : fault ≠ none → failed found) :
    Works path (LoadImages.orFail fault) found post failed := by
  cases fault with
  | none => exact pure holds
  | some err => exact throw (otherwise nofun)

theorem directory_bind {next : Directory Data → Operation Data β}
    (rest : Works path (next found) found final failed) :
    Works path (directory path >>= next) found final failed := by
  intro host there
  have same : (host.directories path).getD {} = found := by rw [there, Option.getD_some]
  exact Ensures.get_bind (same ▸ rest host there)

theorem setDirectory {post : Unit → Directory Data → Prop} (holds : post () after) :
    Works path (LoadImages.setDirectory path after) found post failed :=
  fun _ _ => Ensures.modify ⟨after, Function.update_self .., holds⟩

theorem setHostStatus {post : Unit → Directory Data → Prop} {status message : String}
    (holds : post () found) :
    Works path (LoadImages.setHostStatus status message) found post failed :=
  fun _ there => Ensures.modify ⟨found, there, holds⟩

theorem wrapf {message : String} (works : Works path program found post failed) :
    Works path (LoadImages.wrapf message program) found post failed :=
  fun host there => (works host there).tryCatch fun _ _ holds => Ensures.throw holds

theorem reporting (works : Works path program found post failed) :
    Works path (LoadImages.reporting program) found post failed := by
  refine fun host there => (works host there).tryCatch fun err host' ⟨left, there', holds⟩ => ?_
  have reported : Works path (LoadImages.setHostStatus Constants.failedState err) left (fun _ => failed) failed :=
    setHostStatus holds
  exact (reported host' there').bind fun _ _ holds => Ensures.throw holds

end Works
end Rules

section Phase
variable {Data : Type} {sha256 : Data → String} {faults : Faults} {path : String}
  {found : Directory Data}

/-- The lines of the checksum file for these items. -/
def listing (sha256 : Data → String) (path : String) (items : List (Item Data)) :
    List (List Char) :=
  (content sha256 items).map (hashLine path)

/-- The content of the directory has been loaded since it appeared. -/
def Directory.Loaded (sha256 : Data → String) (found : Directory Data) : Prop :=
  content sha256 found.items ∈ found.loads

/-- The checksum file lists what is in the directory. -/
def Directory.Listed (sha256 : Data → String) (path : String) (found : Directory Data) : Prop :=
  ∃ text, found.checksumFile = some text ∧ Go.scanLines [] text = listing sha256 path found.items

/-- The checksum file may stand for the images, unless something has failed. -/
def Directory.Sound (sha256 : Data → String) (path : String) (found : Directory Data) : Prop :=
  found.failed = false → found.Listed sha256 path → found.Loaded sha256

theorem generateHashForFiles_works (items : List (Item Data)) :
    Works path (items.mapM (generateHashForFile sha256 faults path)) found
      (fun hash after =>
      hash = items.map (fun item => hashLine path (item.name, sha256 item.data)) ∧ after = found)
      (· = found ∧ ∃ name, faults.openImage name ≠ none) := by
  induction items with
  | nil => exact .pure ⟨rfl, rfl⟩
  | cons item rest ih =>
    rw [List.mapM_cons]
    refine .bind (fun line after => line = hashLine path (item.name, sha256 item.data) ∧
      after = found) ?_ ?_
    · refine .bind (fun _ after => after = found) (.orFail rfl fun fault => ⟨rfl, _, fault⟩) ?_
      rintro _ _ rfl
      exact .pure ⟨rfl, rfl⟩
    · rintro _ _ ⟨rfl, rfl⟩
      refine .bind _ ih ?_
      rintro _ _ ⟨rfl, rfl⟩
      exact .pure ⟨rfl, rfl⟩

theorem generateHashForDir_works (readable : faults.readDir = false) :
    Works path (generateHashForDir sha256 faults path) found
      (fun hash after => hash = listing sha256 path found.items ∧ after = found)
      (· = found ∧ ∃ name, faults.openImage name ≠ none) := by
  refine .directory_bind ?_
  simp only [readable]
  refine (generateHashForFiles_works _).weaken (fun hash after ⟨same, unchanged⟩ =>
    ⟨?_, unchanged⟩) fun _ => id
  rw [same, listing, content, List.map_map]
  rfl

theorem readFileByLine_works :
    Works path (readFileByLine faults path) found
      (fun lines after => (∃ text, found.checksumFile = some text ∧ lines = Go.scanLines [] text) ∧
      after = found) (· = found ∧ (faults.openChecksum ≠ none ∨ found.checksumFile = none)) := by
  refine .bind (fun _ after => after = found) (.orFail rfl fun fault => ⟨rfl, .inl fault⟩) ?_
  rintro _ _ rfl
  refine .directory_bind ?_
  split
  · exact .pure ⟨⟨_, ‹_›, rfl⟩, rfl⟩
  · exact .throw ⟨rfl, .inr ‹_›⟩

/-- A write that fails part way leaves a file that stands for nothing. -/
theorem writeToFile_works (lines : List (List Char)) :
    Works path (writeToFile faults path lines) found
      (fun _ after => after = { found with checksumFile := some (Go.joinLines lines) })
      (fun after => after = found ∨ after.failed = true) := by
  refine .bind (fun _ after => after = found) (.orFail rfl fun _ => .inl rfl) ?_
  rintro _ _ rfl
  refine .directory_bind ?_
  split
  · exact .setDirectory rfl
  · exact .bind (fun _ after => after.failed = true) (.setDirectory rfl) fun _ _ torn =>
      .throw (.inr torn)

theorem verifyChecksum_works (readable : faults.readDir = false) (sound : found.Sound sha256 path)
    (intact : found.failed = false) :
    Works path (verifyChecksum sha256 faults path) found
      (fun same after => if same then after.Sound sha256 path ∧ after.Loaded sha256 else True)
      (·.Sound sha256 path) := by
  refine .bind (fun hash after => hash = listing sha256 path found.items ∧ after = found)
    (.wrapf ((generateHashForDir_works readable).weaken (fun _ _ => id) ?_)) ?_
  · rintro _ ⟨rfl, _⟩
    exact sound
  · rintro _ _ ⟨rfl, rfl⟩
    refine .bind _ (readFileByLine_works.weaken (fun _ _ => id) ?_) ?_
    · rintro _ ⟨rfl, _⟩
      exact sound
    · rintro _ _ ⟨⟨text, there, rfl⟩, rfl⟩
      refine .ite (fun same => .pure ?_) fun _ => .bind (fun _ _ => True) ?_ fun _ _ _ => .pure trivial
      · exact ⟨sound, sound intact ⟨text, there, same.symm⟩⟩
      · refine (writeToFile_works _).weaken (fun _ _ _ => trivial) ?_
        rintro after (rfl | torn)
        · exact sound
        · exact fun intact' => absurd intact' (by simp [torn])

theorem generateChecksum_works (readable : faults.readDir = false)
    (sound : found.Sound sha256 path) :
    Works path (generateChecksum sha256 faults path) found (fun _ _ =>
      True) (·.Sound sha256 path) := by
  have writes : ∀ {before : Directory Data} (lines : List (List Char)), before.Sound sha256 path →
      Works path (writeToFile faults path lines) before (fun _ _ => True) (·.Sound sha256 path) := by
    refine fun lines sound => (writeToFile_works lines).weaken (fun _ _ _ => trivial) ?_
    rintro after (rfl | torn)
    · exact sound
    · exact fun intact => absurd intact (by simp [torn])
  refine .bind (fun hash after => after = found)
    (.wrapf ((generateHashForDir_works readable).weaken (fun _ _ kept => kept.2) ?_)) ?_
  · rintro _ ⟨rfl, _⟩
    exact sound
  · rintro hash after rfl
    refine .directory_bind (.ite (fun _ => ?_) fun _ => writes hash sound)
    refine .bind (fun _ left => left = after) (.wrapf (.orFail rfl fun _ => sound)) ?_
    rintro _ _ rfl
    exact .bind (fun _ after => after.Sound sha256 path) (.setDirectory sound) fun _ _ =>
      writes hash

theorem loadImagesFromDir_works :
    Works path (loadImagesFromDir sha256 faults path) found
      (fun _ after => after.Sound sha256 path ∧ after.Loaded sha256) (·.Sound sha256 path) := by
  refine .directory_bind ?_
  split
  · have loaded : content sha256 found.items ∈ content sha256 found.items :: found.loads := List.mem_cons_self
    exact .setDirectory ⟨fun _ _ => loaded, loaded⟩
  · exact .bind (fun _ after => after.failed = true) (.setDirectory rfl) fun _ _ torn =>
      .throw fun intact => absurd intact (by simp [torn])

theorem outdated_works (readable : faults.readDir = false) (sound : found.Sound sha256 path)
    (intact : found.failed = false) :
    Works path (outdated sha256 path faults) found
      (fun load after => if load then True else after.Sound sha256 path ∧ after.Loaded sha256)
      (·.Sound sha256 path) := by
  refine .bind (fun _ after => after = found) (.orFail rfl fun _ => sound) ?_
  rintro _ _ rfl
  refine .directory_bind (.ite (fun _ => ?_) fun _ => ?_)
  · refine .bind _ (verifyChecksum_works readable sound intact) fun same after holds => .pure ?_
    cases same with
    | true => exact holds
    | false => trivial
  · exact .bind _ (generateChecksum_works readable sound) fun _ _ _ => .pure trivial

/-- The end of both operations: the images are loaded where they have to be. -/
def loadIf (sha256 : Data → String) (path : String) (faults : Faults) (load : Bool) :
    Operation Data Unit := do
  if load then
    reporting (loadImagesFromDir sha256 faults path)
  setHostStatus Constants.runningState ""

theorem loadIf_works {load : Bool}
    (checked : load = false → found.Sound sha256 path ∧ found.Loaded sha256) :
    Works path (loadIf sha256 path faults load) found
      (fun _ after => after.Sound sha256 path ∧ after.Loaded sha256) (·.Sound sha256 path) := by
  cases load with
  | true => exact .bind _ (.reporting loadImagesFromDir_works) fun _ _ holds => .setHostStatus holds
  | false => exact .setHostStatus (checked rfl)

end Phase

section Runs
variable {Data : Type} {sha256 : Data → String} {faults : Faults} {path : String} {host : Host Data}

def Host.Sound (sha256 : Data → String) (path : String) (host : Host Data) : Prop :=
  ∀ found, host.directories path = some found → found.Sound sha256 path

def Host.Loaded (sha256 : Data → String) (path : String) (host : Host Data) : Prop :=
  ∀ found, host.directories path = some found → found.Loaded sha256

/-- No load, and no write of the checksum file, has failed since the files last changed. -/
def Host.Intact (path : String) (host : Host Data) : Prop :=
  ∀ found ∈ host.directories path, found.failed = false

theorem Host.At.forall {P : Directory Data → Prop} (there : host.At path P) :
    ∀ found, host.directories path = some found → P found := by
  obtain ⟨found, there, holds⟩ := there
  rintro other there'
  cases there.symm.trans there'
  exact holds

/-- Where the directory is missing, the phase has nothing to do. -/
theorem ensures_present {program : Operation Data Unit}
    (whenPresent : ∀ found, host.directories path = some found →
      Works path program found (fun _ after => after.Sound sha256 path ∧
      after.Loaded sha256) (·.Sound sha256 path)) : Ensures
      (do
        if ((← get).directories path).isNone then
          setHostStatus Constants.runningState ""
        else program)
      host (fun _ after => after.Sound sha256 path ∧
      after.Loaded sha256 path) (·.Sound sha256 path) := by
  refine .get_bind (.ite (fun missing => .modify ?_) fun present => ?_)
  · have none : host.directories path = none := Option.isNone_iff_eq_none.mp missing
    exact ⟨fun found there => by simp_all, fun found there => by simp_all⟩
  · obtain ⟨found, there⟩ := Option.ne_none_iff_exists'.mp (by simpa using present)
    refine (whenPresent found there host there).weaken ?_ fun after holds => Host.At.forall holds
    exact fun _ after holds => ⟨fun found there => (holds.forall found there).1,
      fun found there => (holds.forall found there).2⟩

theorem status_ensures (readable : faults.readDir = false) (sound : host.Sound sha256 path)
    (intact : host.Intact path) :
    Ensures (status sha256 path faults) host
      (fun _ after => after.Sound sha256 path ∧
      after.Loaded sha256 path) (·.Sound sha256 path) := by
  refine ensures_present fun found there => ?_
  refine .bind _
    (.reporting (verifyChecksum_works readable (sound found there) (intact found there))) ?_
  intro same after holds
  refine loadIf_works fun checked => ?_
  cases same with
  | true => exact holds
  | false => contradiction

/-- Start, from the point where the default directory is there. -/
theorem startPresent_ensures (readable : faults.readDir = false) (sound : host.Sound sha256 path)
    (intact : host.Intact path) :
    Ensures
      (do
        if ((← get).directories path).isNone then
          setHostStatus Constants.runningState ""
        else
          let load ← reporting (outdated sha256 path faults)
          loadIf sha256 path faults load)
      host (fun _ after => after.Sound sha256 path ∧
      after.Loaded sha256 path) (·.Sound sha256 path) := by
  refine ensures_present fun found there => ?_
  refine .bind _ (.reporting (outdated_works readable (sound found there) (intact found there))) ?_
  intro load after holds
  refine loadIf_works fun checked => ?_
  subst checked
  exact holds

theorem mkdirImages_ensures (P : Host Data → Prop)
    (kept : ∀ after, after.directories = host.directories → P after) :
    Ensures (reporting (orFail faults.mkdirImages)) host
      (fun _ after => after.directories = host.directories) P := by
  cases faults.mkdirImages with
  | none => exact Eq.refl host.directories
  | some err => exact kept _ rfl

theorem setDirectory_ensures {other : String} (sound : host.Sound sha256 path)
    (intact : host.Intact path) :
    Ensures (setDirectory other {}) host (fun _ after => after.Sound sha256 path ∧
      after.Intact path) (·.Sound sha256 path) := by
  refine .modify ?_
  by_cases same : path = other
  · subst same
    simp only [Host.Sound, Host.Intact, Function.update_self, Option.some.injEq, Option.mem_def,
      forall_eq', and_true]
    rintro _ ⟨text, listed, _⟩
    contradiction
  · have kept := Function.update_of_ne same (some ({} : Directory Data)) host.directories
    exact ⟨fun found there => sound found (kept.symm.trans there),
      fun found there => intact found (kept.symm.trans there)⟩

theorem start_ensures (readable : faults.readDir = false) (sound : host.Sound sha256 path)
    (intact : host.Intact path) :
    Ensures (start sha256 path faults) host
      (fun _ after => after.Sound sha256 path ∧
      after.Loaded sha256 path) (·.Sound sha256 path) := by
  refine .get_bind (.ite (fun _ => ?_) fun _ => startPresent_ensures readable sound intact)
  refine (mkdirImages_ensures _ fun after same => ?_).bind fun _ after same => ?_
  · rwa [Host.Sound, same]
  · have sound' : after.Sound sha256 path := by rwa [Host.Sound, same]
    have intact' : after.Intact path := by rwa [Host.Intact, same]
    exact (setDirectory_ensures sound' intact').bind fun _ _ holds =>
      startPresent_ensures readable holds.1 holds.2

theorem program_ensures (op : PhaseOp) (readable : faults.readDir = false)
    (sound : host.Sound sha256 path) (intact : host.Intact path) :
    Ensures (op.program sha256 path faults) host
      (fun _ after => after.Sound sha256 path ∧
      after.Loaded sha256 path) (·.Sound sha256 path) := by
  cases op with
  | status => exact status_ensures readable sound intact
  | start => exact start_ensures readable sound intact

/-- Files do not change back, unseen, to those that the checksum file lists. The directory can be
read while it is hashed, and after a failure the files change before the next call. -/
def Undisturbed (sha256 : Data → String) (path : String) : Choice Data → Host Data → Prop
  | .change other items, host => other = path → ∀ changed ∈ items, ∀ found ∈ host.directories path,
      ∀ text ∈ found.checksumFile, Go.scanLines [] text = listing sha256 path changed →
        content sha256 changed = content sha256 found.items
  | .call _ faults, host => faults.readDir = false ∧ host.Intact path

theorem Directory.Sound.changed {found : Directory Data} {items : List (Item Data)}
    (sound : found.Sound sha256 path)
    (unseen : ∀ text ∈ found.checksumFile, Go.scanLines [] text = listing sha256 path items →
      content sha256 items = content sha256 found.items) :
    (found.changed sha256 items).Sound sha256 path := by
  unfold Directory.changed
  split
  · next same =>
    rintro intact ⟨text, there, listed⟩
    have earlier : found.Loaded sha256 :=
      sound intact ⟨text, there, by rw [listed, listing, listing, same]⟩
    simpa only [Directory.Loaded, same] using earlier
  · next different =>
    rintro _ ⟨text, there, listed⟩
    exact absurd (unseen text there listed) different

theorem Host.Sound.changed {other : String} {items : Option (List (Item Data))}
    (sound : host.Sound sha256 path)
    (undisturbed : Undisturbed sha256 path (.change other items) host) :
    (host.changed sha256 other items).Sound sha256 path := by
  intro found there
  by_cases same : path = other
  · subst same
    simp only [Host.changed, Function.update_self, Option.map_eq_some_iff] at there
    obtain ⟨items, rfl, rfl⟩ := there
    cases before : host.directories path with
    | none =>
      refine Directory.Sound.changed (fun _ => ?_) nofun
      rintro ⟨text, there, _⟩
      contradiction
    | some earlier =>
      exact (sound earlier before).changed fun text there => undisturbed rfl items rfl earlier before text there
  · exact sound found ((Function.update_of_ne same ..).symm.trans there)

theorem step_sound {after : Host Data} (sound : host.Sound sha256 path)
    (undisturbed : Undisturbed sha256 path choice host)
    (taken : step sha256 path choice host = some after) : after.Sound sha256 path := by
  cases choice with
  | change other items =>
    cases taken
    exact sound.changed undisturbed
  | call op faults =>
    cases taken
    obtain ⟨readable, intact⟩ := undisturbed
    exact ((program_ensures op readable sound intact).weaken (fun _ _ holds => holds.1) fun _ =>
      id).always

/-- Where nothing has been listed at first, success means that the images have been loaded. -/
theorem loaded_of_nil {start after : Host Data} {op : PhaseOp}
    (fresh : ∀ found ∈ start.directories path, ¬ found.Listed sha256 path)
    (run : Transition.Reaches (step sha256 path) (Undisturbed sha256 path) start host)
    (undisturbed : Undisturbed sha256 path (.call op faults) host)
    (returned : (op.program sha256 path faults).result host = (.ok (), after)) :
    after.Loaded sha256 path := by
  have sound : host.Sound sha256 path := by
    refine run.invariant ?_ fun _ _ _ => step_sound
    exact fun found there _ listed => absurd listed (fresh found there)
  obtain ⟨readable, intact⟩ := undisturbed
  exact ((program_ensures op readable sound intact).returned returned).2

/-- One image in the default directory, which is new. -/
def oneImage : Host String where
  directories path :=
    if path = Constants.userImagesDir then some { items := [⟨"a.tar", false, "A"⟩] } else none

theorem loaded_of_nil_oneImage :
    let started := ((start id Constants.userImagesDir {}).result oneImage).2
    ((status id Constants.userImagesDir {}).result started).1 = .ok () ∧
      ((status id Constants.userImagesDir {}).result started).2.Loaded id
      Constants.userImagesDir := by
  have fresh : ∀ found ∈ oneImage.directories Constants.userImagesDir, ¬ found.Listed id Constants.userImagesDir := by
    rintro _ ⟨⟩ ⟨text, there, _⟩
    contradiction
  have first : Undisturbed id Constants.userImagesDir (.call .start {}) oneImage := by
    refine ⟨rfl, ?_⟩
    rintro _ ⟨⟩
    rfl
  have second : Undisturbed id Constants.userImagesDir (.call .status {})
      ((start id Constants.userImagesDir {}).result oneImage).2 := by
    refine ⟨rfl, ?_⟩
    rintro _ ⟨⟩
    rfl
  exact ⟨rfl, loaded_of_nil fresh (.next .refl first rfl) second rfl⟩

/-- Start fails to load the image, and Status then reports success. -/
theorem nil_without_load :
    let failing : Faults := { loadImage := fun _ => some "connection refused" }
    let failed := ((start id Constants.userImagesDir failing).result oneImage).2
    let after := ((status id Constants.userImagesDir {}).result failed).2
    Transition.Reaches (step id Constants.userImagesDir) (fun _ _ => True) oneImage failed ∧
      ((status id Constants.userImagesDir {}).result failed).1 = .ok () ∧
      ¬ after.Loaded id Constants.userImagesDir := by
  have taken :
    step id Constants.userImagesDir
      (.call .start { loadImage := fun _ => some "connection refused" }) oneImage = some _ := rfl
  refine ⟨.next .refl trivial taken, rfl, fun loaded => ?_⟩
  have impossible := loaded _ rfl
  contradiction

end Runs
end Nodelet.LoadImages
