import Nodelet.Bouncer.WebhookToken
import Nodelet.Go.JsonEntries

/-! The tool that makes a token of a username and a password. It writes the two into a JSON text as
they are, so that the token is read back exactly where neither has a rune that a string literal has
to escape. -/
namespace Bouncer.Makecred
open Go (Program)
open Go.Base64 (stdEncoding)
open Go.Utf8 (bytes)
open Go.JsonText

/-- The lines that are printed. -/
abbrev Output := List (List UInt8)

def json (username password : String) : String :=
  "\x7b\"username\": \"" ++ username ++ "\", \"password\": \"" ++ password ++ "\"\x7d"

def emit (j : String) : Program Output Unit := do
  let c := stdEncoding.encodeToString (bytes j)
  modify (· ++ [c])
  if (stdEncoding.decodeString c).toOption ≠ some (bytes j) then throw (.exit 1)

def main (args : List String) : Program Output Unit :=
  if args.length < 2 then throw (.exit 1)
  else do emit (json (← Go.index args 1) (← Go.index args 2))

/-- The token that is printed is read as these credentials, and not as a Keystone token ID. -/
def Restored (username password : String) : Prop :=
  ∀ name more, ∃ c, main (name :: username :: password :: more) [] = .ok ((), [c]) ∧
    credentials c = .ok (username, password) ∧ isKeystoneTokenID c = false

def token (username password : String) : List UInt8 :=
    stdEncoding.encodeToString (bytes (json username password))

theorem emit_eq (j : String) (printed : Output) :
    emit j printed = .ok ((), printed ++ [stdEncoding.encodeToString (bytes j)]) := by
  have decoded : (stdEncoding.decodeString (stdEncoding.encodeToString (bytes j))).toOption = some (bytes j) := by
    rw [Go.Base64.Encoding.decodeString_encodeToString, Except.toOption]
  simp only [emit, decoded, ne_eq, not_true_eq_false, if_false]
  rfl

theorem main_eq (name username password : String) (more : List String) :
    main (name :: username :: password :: more) [] = .ok ((), [token username password]) := by
  have long : ¬ (name :: username :: password :: more).length < 2 := by simp
  have second : Go.index (name :: username :: password :: more) 1 = .ok username :=
    Go.index_eq (i := 1) (by simp)
  have third : Go.index (name :: username :: password :: more) 2 = .ok password :=
    Go.index_eq (i := 2) (by simp)
  rw [main, if_neg long, second, third, token, ← List.nil_append [_], ← emit_eq]
  generalize emit = program
  rfl

section Stored
variable {key : String} {kind : Kind} {entries : List (String × Kind)} {creds after : Creds}
  {error error' : Option Go.Error}

/-- A key of one of the fields is as long as its name, whatever the case of its letters. -/
theorem findField_cases (creds : Creds) (found : findField Creds.fields key = some f) :
    key.length = 8 ∧ ((∀ value, f.set value creds = { creds with username := value }) ∨
      ∀ value, f.set value creds = { creds with password := value }) := by
  have same (name : String) (folds : name = key ∨ sameFold name key = true) :
      key.length = name.length := by
    obtain rfl | folds := folds
    · rfl
    · have lengths := congrArg List.length (of_decide_eq_true folds)
      simpa only [List.length_map, String.length_toList] using lengths.symm
  have listed : f ∈ Creds.fields ∧ key.length = f.name.length := by
    obtain named | ⟨-, folded⟩ := Option.or_eq_some_iff.mp found
    · have holds := List.find?_some named
      exact ⟨List.mem_of_find?_eq_some named, same _ (.inl (of_decide_eq_true holds))⟩
    · have holds := List.find?_some folded
      exact ⟨List.mem_of_find?_eq_some folded, same _ (.inr holds)⟩
  obtain ⟨member, length⟩ := listed
  simp only [Creds.fields, List.mem_cons, List.not_mem_nil, or_false] at member
  obtain rfl | rfl := member
  · exact ⟨length, .inl fun _ => rfl⟩
  · exact ⟨length, .inr fun _ => rfl⟩

theorem store_cases (creds : Creds) (error : Option Go.Error) (key : String) (kind : Kind) :
    ∃ error', store Creds.fields (creds, error) (key, kind) = (creds, error') ∨
      ∃ value, Outline.size (key, kind) = value.length + 14 ∧
        (store Creds.fields (creds, error) (key, kind) = ({ creds with username := value }, error') ∨
          store Creds.fields (creds, error) (key, kind) = ({ creds with password := value }, error')) := by
  rw [store]
  cases found : findField Creds.fields key with
  | none => exact ⟨error, .inl rfl⟩
  | some f =>
    obtain ⟨length, set⟩ := findField_cases creds found
    cases kind with
    | string value =>
      refine ⟨error, .inr ⟨value, by simp only [Outline.size]; omega, ?_⟩⟩
      obtain set | set := set
      · exact .inl (congrArg (·, error) (set value))
      · exact .inr (congrArg (·, error) (set value))
    | _ => exact ⟨_, .inl rfl⟩

/-- A field that was stored has taken its share of the text. -/
theorem stored_bound
    (stored : entries.foldl (store Creds.fields) (creds, error) = (after, error')) :
    ∃ first second, first + second ≤ (entries.map Outline.size).sum ∧
      (after.username = creds.username ∨ after.username.length + 14 ≤ first) ∧
      (after.password = creds.password ∨ after.password.length + 14 ≤ second) := by
  induction entries generalizing creds error with
  | nil =>
    cases stored
    exact ⟨0, 0, Nat.le_refl _, .inl rfl, .inl rfl⟩
  | cons entry rest ih =>
    obtain ⟨key, kind⟩ := entry
    rw [List.foldl_cons] at stored
    rw [List.map_cons, List.sum_cons]
    obtain ⟨error', same | ⟨value, size, same | same⟩⟩ := store_cases creds error key kind
    · rw [same] at stored
      obtain ⟨first, second, bound, username, password⟩ := ih stored
      exact ⟨first, second, by omega, username, password⟩
    · rw [same] at stored
      obtain ⟨first, second, bound, username, password⟩ := ih stored
      refine ⟨value.length + 14 + first, second, by omega, .inr ?_, password⟩
      obtain username | username := username
      · rw [username]
        exact Nat.le_add_right _ _
      · omega
    · rw [same] at stored
      obtain ⟨first, second, bound, username, password⟩ := ih stored
      refine ⟨first, value.length + 14 + second, by omega, username, .inr ?_⟩
      obtain password | password := password
      · rw [password]
        exact Nat.le_add_right _ _
      · omega

theorem store_username (value : String) :
    store Creds.fields (creds, error) ("username", .string value) =
      ({ creds with username := value }, error) := by
  have found : findField Creds.fields "username" = Creds.fields[0] := rfl
  rw [store, found]
  rfl

theorem store_password (value : String) :
    store Creds.fields (creds, error) ("password", .string value) =
      ({ creds with password := value }, error) := by
  have found : findField Creds.fields "password" = Creds.fields[1] := rfl
  rw [store, found]
  rfl

end Stored

section Read
variable {raw : List Char} {key : String} {top : Option Kind} {entries : List (String × Kind)}
  {step : Step} {o : Outline}

def opening : List Char := ['\x7b', '"', 'u', 's', 'e', 'r', 'n', 'a', 'm', 'e', '"', ':', ' ', '"']

def between : List Char :=
    ['"', ',', ' ', '"', 'p', 'a', 's', 's', 'w', 'o', 'r', 'd', '"', ':', ' ', '"']

def closing : List Char := ['"', '\x7d']

theorem toList_json (username password : String) : (json username password).toList =
    opening ++ (username.toList ++ (between ++ (password.toList ++ closing))) := by
  unfold json
  rw [String.toList_append, String.toList_append, String.toList_append, String.toList_append]
  simp only [List.append_assoc]
  rfl

theorem run_opening :
    Outline.run {} opening =
      some ⟨⟨.inString, [.objectValue]⟩, [], "username", some .object, []⟩ := by
  decide +kernel

theorem run_between :
    Outline.run ⟨⟨.inString, [.objectValue]⟩, raw, key, top, entries⟩ between = some
    ⟨⟨.inString, [.objectValue]⟩, [], "password", top,
      entries ++ [(key, .string (String.ofList (unquote raw)))]⟩ := by
  have name : String.ofList (unquote ['p', 'a', 's', 's', 'w', 'o', 'r', 'd']) = "password" := by decide +kernel
  rw [← name]
  rfl

theorem run_closing :
    Outline.run ⟨⟨.inString, [.objectValue]⟩, raw, key, top, entries⟩ closing = some
    ⟨⟨.endTop, []⟩, raw, key, top, entries ++ [(key, .string (String.ofList (unquote raw)))]⟩ := rfl

/-- A literal that is left in an escape sequence takes the quote that was to close it. -/
theorem between_of_quoted (quoted : step.quoted = true)
    (ran : Outline.run ⟨⟨step, [.objectValue]⟩, raw, key, top, entries⟩ between = some o) :
    step = .inString := by
  cases step with
  | inString => rfl
  | inStringEsc | inStringEscU => exact absurd ran nofun
  | _ => contradiction

theorem closing_of_quoted (quoted : step.quoted = true)
    (ran : Outline.run ⟨⟨step, [.objectValue]⟩, raw, key, top, entries⟩ closing = some o)
    (ended : o.scanner.eof = true) : step = .inString := by
  cases step with
  | inString => rfl
  | inStringEsc =>
    obtain rfl := Option.some.inj ran
    contradiction
  | inStringEscU => exact absurd ran nofun
  | _ => contradiction

/-- A quote that opens a literal where the text has one that closes it. -/
theorem run_stray (frames : List Frame) (rest : List Char) :
    Scanner.run ⟨.inString, frames⟩ (',' :: ' ' :: '"' :: 'p' :: rest) = none := by
  have stuck : Scanner.endValue 'p' frames = none := Scanner.endValue_eq_none rfl (by decide)
  simp [Scanner.run, Scanner.next, stuck]

theorem eof_pop (frame : Frame) (rest : List Frame) :
    (Scanner.pop (frame :: rest)).eof = false := by
  simp [Scanner.pop, Scanner.eof, Scanner.next, Scanner.endValue, isSpace]

/-- The entry of an empty password, with the brace that closes its object. -/
def emptyEntry : List Char :=
    [',', ' ', '"', 'p', 'a', 's', 's', 'w', 'o', 'r', 'd', '"', ':', ' ', '"', '"', '\x7d']

theorem run_emptyEntry (frame : Frame) (rest : List Frame) :
    Scanner.run ⟨.endValue, frame :: rest⟩ emptyEntry =
    if frame = .objectValue then some (.pop rest) else none := by
  cases frame <;> rfl

/-- Where the password is empty its entry is the last, and a literal in the outermost object comes
before it. -/
theorem scanner_of_empty {s s' : Scanner} (ran : s.run ('"' :: emptyEntry) = some s')
    (ended : s'.eof = true) : s = ⟨.inString, [.objectValue]⟩ := by
  obtain ⟨step, frames⟩ := s
  rw [Scanner.run, List.foldlM_cons] at ran
  obtain ⟨after, moved, ran⟩ := Option.bind_eq_some_iff.mp ran
  have stray : after ≠ ⟨.inString, frames⟩ := by
    rintro rfl
    exact absurd ((run_stray frames _).symm.trans ran) (by simp)
  cases quoted : step.quoted with
  | false => exact absurd (Scanner.next_quote quoted moved) stray
  | true =>
    cases step with
    | inString =>
      obtain rfl := Option.some.inj moved
      cases frames with
      | nil => cases ran
      | cons frame rest =>
        have entered := (run_emptyEntry _ _).symm.trans ran
        cases frame with
        | objectKey | arrayValue => cases entered
        | objectValue =>
          obtain rfl := Option.some.inj entered
          cases rest with
          | nil => rfl
          | cons => simp [eof_pop] at ended
    | inStringEsc => exact absurd (Option.some.inj moved).symm stray
    | inStringEscU digits => cases moved
    | _ => contradiction

/-- What is stored after an entry of the outermost object takes its share of the text after it. -/
theorem read_bound {creds after : Creds} {error error' : Option Go.Error}
    (ran : Outline.run ⟨⟨.endValue, [.objectValue]⟩, raw, key, top, entries⟩ text = some o)
    (before : entries.foldl (store Creds.fields) ({}, none) = (creds, error))
    (stored : o.entries.foldl (store Creds.fields) ({}, none) = (after, error')) :
    ∃ first second, first + second ≤ text.length ∧
      (after.username = creds.username ∨ after.username.length + 14 ≤ first) ∧
      (after.password = creds.password ∨ after.password.length + 14 ≤ second) := by
  obtain ⟨more, added, bound⟩ := Outline.run_adds ⟨by simp, by simp⟩ ran
  rw [added, List.foldl_append, before] at stored
  obtain ⟨first, second, sum, username, password⟩ := stored_bound stored
  refine ⟨first, second, ?_, username, password⟩
  have none : Outline.pending ⟨⟨.endValue, [.objectValue]⟩, raw, key, top, entries⟩ = 0 := rfl
  omega

theorem ofList_unquote_ne {inside after : List Char} :
    String.ofList (inside ++ '"' :: after) ≠ String.ofList (unquote inside) := by
  intro same
  have lengths := congrArg List.length (String.ofList_injective same)
  have shorter := length_unquote inside
  simp only [List.length_append, List.length_cons] at lengths
  omega

theorem password_closed {u inside after : List Char}
    (ran : Outline.run ⟨⟨.endValue, [.objectValue]⟩, raw, key, top,
      [("username", .string (String.ofList u)),
      ("password", .string (String.ofList (unquote inside)))]⟩ (after ++ closing) = some o)
    (stored : o.entries.foldl (store Creds.fields) ({}, none) =
      (⟨String.ofList u', String.ofList (inside ++ '"' :: after)⟩, none)) : False := by
  have before :
    [("username", Kind.string (String.ofList u)),
      ("password", .string (String.ofList (unquote inside)))].foldl
      (store Creds.fields) ({}, none) = (⟨String.ofList u, String.ofList (unquote inside)⟩, none) := by
    rw [List.foldl_cons, store_username, List.foldl_cons, store_password]
    rfl
  obtain ⟨first, second, sum, -, same | long⟩ := read_bound ran before stored
  · exact ofList_unquote_ne same
  · simp only [String.length_ofList, List.length_append, List.length_cons, closing, List.length_nil] at sum long
    omega

theorem username_closed {p inside after : List Char}
    (ran : Outline.run
      ⟨⟨.endValue, [.objectValue]⟩, raw, key, top,
      [("username", .string (String.ofList (unquote inside)))]⟩
      (after ++ (between ++ (p ++ closing))) = some o) (ended : o.scanner.eof = true)
    (stored : o.entries.foldl (store Creds.fields) ({}, none) =
      (⟨String.ofList (inside ++ '"' :: after), String.ofList p⟩, none)) : False := by
  have before :
    [("username", Kind.string (String.ofList (unquote inside)))].foldl (store Creds.fields)
      ({}, none) = (⟨String.ofList (unquote inside), ""⟩, none) := by
    rw [List.foldl_cons, store_username]
    rfl
  cases p with
  | cons c rest =>
    -- both have to come from entries after the first
    obtain ⟨first, second, sum, username, password⟩ := read_bound ran before stored
    have username := username.resolve_left ofList_unquote_ne
    have password := password.resolve_left (by simp [← String.toList_inj])
    simp only [String.length_ofList, List.length_append, List.length_cons, between, closing,
      List.length_nil] at sum username password
    omega
  | nil =>
    -- what is stored as the username is complete at the first quote after it
    rw [Outline.run_append] at ran
    obtain ⟨o₁, early, last⟩ := Option.bind_eq_some_iff.mp ran
    have scanned : o₁.scanner.run ('"' :: emptyEntry) = some o.scanner := by
      rw [← Outline.map_scanner_run]
      exact congrArg (Option.map Outline.scanner) last
    obtain ⟨scanner, raw₁, key₁, top₁, entries₁⟩ := o₁
    obtain rfl := scanner_of_empty scanned ended
    rw [Outline.run_append, run_between] at last
    obtain rfl := Option.some.inj (run_closing.symm.trans last)
    have quote :
      Outline.run
        ⟨⟨.endValue, [.objectValue]⟩, raw, key, top,
          [("username", .string (String.ofList (unquote inside)))]⟩
        (after ++ ['"']) = some ⟨⟨.endValue, [.objectValue]⟩, raw₁, key₁, top₁,
          entries₁ ++ [(key₁, .string (String.ofList (unquote raw₁)))]⟩ := by
      rw [Outline.run_append, early]
      rfl
    rw [List.foldl_append] at stored
    obtain ⟨⟨creds, error⟩, result⟩ :
      ∃ result, (entries₁ ++ [(key₁, Kind.string (String.ofList (unquote raw₁)))]).foldl
      (store Creds.fields) ({}, none) = result := ⟨_, rfl⟩
    rw [result, List.foldl_cons, store_password] at stored
    have username : creds.username = String.ofList (inside ++ '"' :: after) :=
      congrArg (·.1.username) stored
    obtain ⟨first, second, sum, same | long, -⟩ := read_bound quote before result
    · exact ofList_unquote_ne (username.symm.trans same)
    · rw [username] at long
      simp only [String.length_ofList, List.length_append, List.length_cons, List.length_nil] at sum long
      omega

theorem plain_of_stored {u p : List Char}
    (ran : Outline.run {} (opening ++ (u ++ (between ++ (p ++ closing)))) = some o)
    (ended : o.scanner.eof = true)
    (stored : o.entries.foldl (store Creds.fields) ({}, none) =
      (⟨String.ofList u, String.ofList p⟩, none)) :
    (∀ c ∈ u, Outline.Plain c) ∧ ∀ c ∈ p, Outline.Plain c := by
  rw [Outline.run_append, run_opening, Option.bind_some, Outline.run_append] at ran
  obtain ⟨o₁, first, afterUsername⟩ := Option.bind_eq_some_iff.mp ran
  obtain ⟨step, quoted, rfl, plainUsername⟩ | ⟨inside, after, rfl, later⟩ :=
    Outline.run_quoted rfl first
  · rw [Outline.run_append] at afterUsername
    obtain ⟨o₂, middle, passwordOn⟩ := Option.bind_eq_some_iff.mp afterUsername
    obtain rfl := between_of_quoted quoted middle
    obtain rfl := Option.some.inj (run_between.symm.trans middle)
    rw [Outline.run_append] at passwordOn
    obtain ⟨o₃, second, last⟩ := Option.bind_eq_some_iff.mp passwordOn
    obtain ⟨step, quoted, rfl, plainPassword⟩ | ⟨inside, after, rfl, later⟩ :=
      Outline.run_quoted rfl second
    · obtain rfl := closing_of_quoted quoted last ended
      obtain rfl := Option.some.inj (run_closing.symm.trans last)
      change [("username", Kind.string (String.ofList (unquote u))),
        ("password", .string (String.ofList (unquote p)))].foldl
        (store Creds.fields) ({}, none) = _ at stored
      rw [List.foldl_cons, store_username, List.foldl_cons, store_password] at stored
      have username : unquote u = u := String.ofList_injective (congrArg (·.1.username) stored)
      have password : unquote p = p := String.ofList_injective (congrArg (·.1.password) stored)
      exact ⟨plainUsername rfl (plain_of_length_unquote (by rw [username])),
        plainPassword rfl (plain_of_length_unquote (by rw [password]))⟩
    · have whole : Outline.run ⟨⟨.endValue, [.objectValue]⟩, inside, "password", some .object,
          [("username", .string (String.ofList (unquote u))), ("password", .string (String.ofList (unquote inside)))]⟩
          (after ++ closing) = some o := by
        rw [Outline.run_append]
        exact Option.bind_eq_some_iff.mpr ⟨o₃, later, last⟩
      exact (password_closed whole stored).elim
  · have whole : Outline.run ⟨⟨.endValue, [.objectValue]⟩, inside, "username", some .object,
        [("username", .string (String.ofList (unquote inside)))]⟩
          (after ++ (between ++ (p ++ closing))) = some o := by
      rw [Outline.run_append]
      exact Option.bind_eq_some_iff.mpr ⟨o₁, later, afterUsername⟩
    exact (username_closed whole ended stored).elim

end Read

variable {username password : String}

theorem credentials_token {pair : String × String} :
    credentials (token username password) = .ok pair ↔
    ∃ o, Outline.run {} (json username password).toList = some o ∧ o.scanner.eof = true ∧
      ((o.top = some .object ∧
      o.entries.foldl (store Creds.fields) ({}, none) = (⟨pair.1, pair.2⟩, none)) ∨
        (o.top = some .null ∧ pair = ("", ""))) := by
  have decoded :
    (stdEncoding.decodeString (token username password)).mapError ("decode credentials: " ++ ·) =
      .ok (bytes (json username password)) := by
    rw [token, Go.Base64.Encoding.decodeString_encodeToString, Except.mapError]
  rw [credentials, decoded]
  simp only [Go.bind_eq_ok, Except.ok.injEq, exists_eq_left', Go.mapError_eq_ok, unmarshal_eq_ok,
    Go.Utf8.runes_bytes, outline_eq_ok]
  constructor
  · rintro ⟨creds, ⟨o, ⟨ran, ended⟩, told⟩, same⟩
    obtain rfl := Except.ok.inj same
    refine ⟨o, ran, ended, told.imp_right fun none => ⟨none.1, ?_⟩⟩
    rw [none.2]
  · rintro ⟨o, ran, ended, told⟩
    refine ⟨⟨pair.1, pair.2⟩, ⟨o, ⟨ran, ended⟩, told.imp_right fun none => ⟨none.1, ?_⟩⟩, rfl⟩
    rw [none.2]

theorem credentials_of_plain (plain : ∀ c ∈ username.toList, Outline.Plain c)
    (plain' : ∀ c ∈ password.toList, Outline.Plain c) :
    credentials (token username password) = .ok (username, password) := by
  rw [credentials_token, toList_json]
  refine ⟨⟨⟨.endTop, []⟩, password.toList, "password", some .object,
    [("username", .string username), ("password", .string password)]⟩, ?_, rfl, .inl ⟨rfl, ?_⟩⟩
  · rw [Outline.run_append, run_opening, Option.bind_some, Outline.run_append,
      Outline.run_plain rfl plain, Option.bind_some, List.nil_append, Outline.run_append,
      run_between, Option.bind_some, Outline.run_append, Outline.run_plain rfl plain',
      Option.bind_some, List.nil_append, run_closing]
    dsimp only [List.nil_append]
    rw [unquote_plain (fun member => (plain _ member).2.1 rfl),
      unquote_plain (fun member => (plain' _ member).2.1 rfl),
      String.ofList_toList, String.ofList_toList]
    rfl
  · rw [List.foldl_cons, store_username, List.foldl_cons, store_password]
    rfl

/-- The token restores exactly the usernames and passwords that are the same in a string literal. -/
theorem restored_iff (username password : String) : Restored username password ↔
    (∀ c ∈ username.toList, Outline.Plain c) ∧ ∀ c ∈ password.toList, Outline.Plain c := by
  constructor
  · intro restored
    obtain ⟨c, printed, read, -⟩ := restored "makecred" []
    rw [main_eq] at printed
    obtain rfl : token username password = c := by simpa using printed
    obtain ⟨o, ran, ended, ⟨-, stored⟩ | ⟨-, same⟩⟩ := credentials_token.mp read
    · rw [toList_json] at ran
      exact plain_of_stored ran ended (by simpa using stored)
    · obtain ⟨rfl, rfl⟩ := Prod.mk.inj same
      exact ⟨nofun, nofun⟩
  · rintro ⟨plain, plain'⟩ name more
    have read := credentials_of_plain plain plain'
    refine ⟨token username password, main_eq name username password more, read, ?_⟩
    by_contra fernet
    obtain ⟨error, failed⟩ := credentials_of_fernet (Bool.eq_true_of_not_eq_false fernet)
    exact absurd (read.symm.trans failed) nofun

/-- A password with quotes can be read as another username. -/
theorem password_read_as_username :
    credentials (token "jdoe" "secret\", \"username\": \"admin") = .ok ("admin", "secret") ∧
      ¬ Restored "jdoe" "secret\", \"username\": \"admin" := by
  have read :
    credentials (token "jdoe" "secret\", \"username\": \"admin") =
      .ok ("admin", "secret") := by decide +kernel
  refine ⟨read, fun restored => ?_⟩
  obtain ⟨c, printed, same, -⟩ := restored "makecred" []
  rw [main_eq] at printed
  obtain rfl : token "jdoe" "secret\", \"username\": \"admin" = c := by simpa using printed
  exact absurd (read.symm.trans same) (by decide)

end Bouncer.Makecred
