import CcsTrans.Storage.Exact

/-!
The profile database as a file.

A file is taken as SQLite leaves it when the last connection is closed, with all that was
committed in it. The class `Engine` says what is used of SQLite's files: which tables a file
holds, and that they are those last committed.
-/

namespace CcsTrans.Storage

open CcsTrans.Text CcsTrans.Json CcsTrans.Config CcsTrans.Fallible

/-- What a database holds: of its schema, how many of the tables there are, how many objects
in all, the version and the entries of the history; and the tables. -/
structure Contents where
  schemaTables : ℕ := 5
  schemaObjects : ℕ := 5
  userVersion : ℤ := 1
  schemaHistory : ℕ := 1
  tables : Tables := {}

/-- `verify_schema`. -/
def verifySchema (c : Contents) : Except StoreError Unit :=
  if c.schemaTables ≠ 5 then
    .error ⟨.unsupportedSchema, str "profile database schema tables are missing"⟩
  else if c.schemaObjects ≠ 5 then
    .error ⟨.unsupportedSchema, str "profile database has unexpected schema objects"⟩
  else if c.userVersion ≠ 1 then
    .error ⟨.unsupportedSchema, str "unsupported profile database user_version"⟩
  else if c.schemaHistory ≠ 1 then
    .error ⟨.unsupportedSchema, str "profile database schema history is invalid"⟩
  else .ok ()

/-- Files of SQLite. -/
class Engine [Library] [Sqlite] where
  /-- What a file holds that is not empty: how it is opened and its integrity checked. -/
  contents : Bytes → Except StoreError Contents
  /-- A new database, once its journal mode is set and before there is a schema. -/
  header : Bytes
  /-- A new database with the schema, at a time. -/
  created : Bytes → Bytes
  /-- The file after a transaction that left these tables, at a time. -/
  commit : Bytes → Bytes → Tables → Bytes
  contents_header : contents header =
    .ok { schemaTables := 0, schemaObjects := 0, userVersion := 0, schemaHistory := 0 }
  contents_created : ∀ now, contents (created now) = .ok {}
  contents_commit : ∀ now file c t, contents file = .ok c → verifySchema c = .ok () → t.Valid →
    t.repository.revision ≤ int64Max → contents (commit now file t) = .ok { c with tables := t }
  /-- The constraints of the schema hold in every database that has it, … -/
  contents_valid : ∀ file c, contents file = .ok c → verifySchema c = .ok () → c.tables.Valid
  /-- … and integers have 64 bits. -/
  contents_range : ∀ file c, contents file = .ok c → c.tables.repository.revision ≤ int64Max
  header_ne : header ≠ []
  created_ne : ∀ now, created now ≠ []
  commit_ne : ∀ now file t, commit now file t ≠ []

section File

variable [Library] [Sqlite] [Engine]

/-- The file and its tables, when there is a database that can be opened. -/
def openTables : Option Bytes → Except StoreError (Bytes × Tables)
  | none => .error ⟨.notFound, str "profile database does not exist"⟩
  | some [] => .error ⟨.corrupt, str "existing profile database is empty"⟩
  | some (b :: rest) => do
    let contents ← Engine.contents (b :: rest)
    verifySchema contents
    return (b :: rest, contents.tables)

/-- `SqliteProfileStore::load`. -/
def load (file : Option Bytes) : Except StoreError ProfileStoreSnapshot := do
  let (_, tables) ← openTables file
  readSnapshot tables

/-- `SqliteProfileStore::save`: what was committed, and the file. -/
def saveFile (now : Bytes) (file : Option Bytes) (desired : ProfileStoreSnapshot) :
    Except StoreError (ProfileStoreSnapshot × Bytes) := do
  checkDesired desired
  let (file, tables) ← openTables file
  let (written, tables) ← save tables desired
  -- what is stored already is not written again
  return (written, if written = desired then file else Engine.commit now file tables)

/-- `SqliteProfileStore::mark_migrated`, for a v2 source. -/
def markMigrated (now : Bytes) (file : Option Bytes) (sourceSha256 : Bytes) :
    Except StoreError (ProfileStoreSnapshot × Bytes) := do
  if !validSha256 sourceSha256 then
    throw ⟨.invalidData, str "migration provenance requires v2 schema and lowercase SHA-256"⟩
  let (file, tables) ← openTables file
  let current ← readSnapshot tables
  match current.migratedFromSha256 with
  | some origin =>
    if origin = sourceSha256 then return (current, file)
    throw ⟨.constraint, str "profile database has different migration provenance"⟩
  | none =>
    let tables := { tables with
      repository := { tables.repository with migratedFromSha256 := some sourceSha256 } }
    let verified ← readSnapshot tables
    if verified.revision ≠ current.revision ∨ verified.migratedFromSha256 ≠ some sourceSha256 ∨
        verified.profiles ≠ current.profiles then
      throw ⟨.corrupt, str "migration provenance round-trip failed"⟩
    return (verified, Engine.commit now file tables)

/-- `SqliteProfileStore::checkpoint_for_move`. -/
def checkpointForMove (file : Option Bytes) : Except StoreError Unit := do
  let (_, tables) ← openTables file
  let _ ← readSnapshot tables
  return ()

/-! ### What is read -/

lemma openTables_ok {file : Option Bytes} {f : Bytes} {t : Tables}
    (h : openTables file = .ok (f, t)) :
    file = some f ∧ t.Valid ∧ t.repository.revision ≤ int64Max ∧
      ∃ c, Engine.contents f = .ok c ∧ verifySchema c = .ok () ∧ c.tables = t := by
  match file, h with
  | some (b :: rest), h =>
    obtain ⟨c, hc, h⟩ := bind_eq_ok.mp h
    obtain ⟨_, hs, h⟩ := bind_eq_ok.mp h
    cases h
    exact ⟨rfl, Engine.contents_valid _ _ hc hs, Engine.contents_range _ _ hc, c, hc, hs, rfl⟩

lemma openTables_of_contents {f : Bytes} {c : Contents} (hne : f ≠ [])
    (hc : Engine.contents f = .ok c) (hs : verifySchema c = .ok ()) :
    openTables (some f) = .ok (f, c.tables) := by
  match f, hne with
  | b :: rest, _ => simp only [openTables, hc, ok_bind, hs, pure_eq_ok]

lemma openTables_commit {file : Option Bytes} {f now : Bytes} {t t' : Tables}
    (h : openTables file = .ok (f, t)) (ht : t'.Valid) (hrange : t'.repository.revision ≤ int64Max) :
    openTables (some (Engine.commit now f t')) = .ok (Engine.commit now f t', t') := by
  obtain ⟨-, -, -, c, hc, hs, -⟩ := openTables_ok h
  exact openTables_of_contents (Engine.commit_ne now f t')
    (Engine.contents_commit now f c t' hc hs ht hrange) hs

/-- What is stored has a revision of 64 bits and an origin in order. -/
lemma load_ok {file : Option Bytes} {s : ProfileStoreSnapshot} (h : load file = .ok s) :
    0 ≤ s.revision ∧ s.revision ≤ int64Max ∧ s.migratedFromSha256.all validSha256 = true ∧
      file.isSome = true := by
  obtain ⟨⟨f, t⟩, hopen, h⟩ := bind_eq_ok.mp h
  obtain ⟨hfile, hvalid, hrange, -⟩ := openTables_ok hopen
  obtain ⟨-, -, ⟨-, hpos, horigin⟩, hrev, hsha⟩ := stores_of_readSnapshot hvalid h
  rw [hrev, hsha]
  exact ⟨hpos, hrange, horigin, by rw [hfile]; rfl⟩

/-- A new database is empty. -/
lemma load_created (now : Bytes) : load (some (Engine.created now)) = .ok {} := by
  have hopen := openTables_of_contents (Engine.created_ne now) (Engine.contents_created now) rfl
  simp only [load, hopen, ok_bind]
  rfl

lemma load_header : load (some Engine.header) =
    .error ⟨.unsupportedSchema, str "profile database schema tables are missing"⟩ := by
  have hopen : openTables (some Engine.header) =
      .error ⟨.unsupportedSchema, str "profile database schema tables are missing"⟩ := by
    obtain ⟨b, rest, hheader⟩ := List.exists_cons_of_ne_nil Engine.header_ne
    have hc := Engine.contents_header
    rw [hheader] at hc ⊢
    simp only [openTables, hc, ok_bind]
    rfl
  simp only [load, hopen, error_bind]

/-! ### What is written -/

/-- What a save leaves in the file. -/
structure SavedFile (current desired written : ProfileStoreSnapshot) (file : Bytes) : Prop where
  load : load (some file) = .ok written
  revision : written.revision = desired.revision + 1
  origin : written.migratedFromSha256 = desired.migratedFromSha256
  profiles : Completed current.profiles desired.profiles written.profiles

omit [Sqlite] [Engine] in
/-- The keys of a snapshot that can be saved are those that are stored. -/
lemma desirable_of_checkKeys {current : ProfileStoreSnapshot} {desired : List StoredProfile}
    (hval : validateProfiles false desired = .ok ()) (h : checkKeys current desired = .ok ()) :
    Desirable current.profiles desired := by
  refine ⟨validateProfiles_ok.mp hval, ?_, ?_⟩
  · clear hval
    induction desired with
    | nil => simp
    | cons p ps ih =>
      rw [checkKeys] at h
      split_ifs at h with hkey hrule
      refine List.forall_mem_cons.mpr ⟨fun hpos => ?_, ih h⟩
      by_contra hmem
      exact hkey ⟨hpos, hmem⟩
  · clear hval
    induction desired with
    | nil => simp
    | cons p ps ih =>
      rw [checkKeys] at h
      split_ifs at h with hkey hrule
      refine List.forall_mem_cons.mpr ⟨fun r hr hpos => ?_, ih h⟩
      have hbelongs := List.all_eq_true.mp (by simpa using hrule) r hr
      have hne : r.key ≠ 0 := ne_of_gt hpos
      simp only [ruleKeyBelongs, Bool.or_eq_true, beq_iff_eq, hne, false_or, Bool.and_eq_true,
        List.contains_iff_mem, existingRules, List.mem_flatMap, List.mem_map, Prod.mk.injEq] at hbelongs
      obtain ⟨-, q, hq, r', hr', hkey, hpkey⟩ := hbelongs
      exact ⟨q, hq, hpkey, List.mem_map.mpr ⟨r', hr', hkey⟩⟩

omit [Sqlite] [Engine] in
lemma validateProfiles_of_checkDesired {desired : ProfileStoreSnapshot}
    (h : checkDesired desired = .ok ()) : validateProfiles false desired.profiles = .ok () := by
  unfold checkDesired at h
  split at h
  · cases h
  cases hval : validateProfiles false desired.profiles with
  | error e => simp [hval] at h
  | ok _ => rfl

omit [Engine] in
/-- A save that succeeds found what was stored, or left what was desired. -/
lemma save_ok {t t' : Tables} {desired written : ProfileStoreSnapshot} (ht : t.Valid)
    (h : save t desired = .ok (written, t')) :
    ∃ current, readSnapshot t = .ok current ∧ desired.revision = current.revision ∧
      desired.migratedFromSha256 = current.migratedFromSha256 ∧
      ((desired = current ∧ written = current ∧ t' = t) ∨
        (desired ≠ current ∧ desired.revision ≠ int64Max ∧ Saved current desired written t')) := by
  have hsave := h
  unfold save at h
  obtain ⟨_, hcheck, h⟩ := bind_eq_ok.mp h
  obtain ⟨current, hread, h⟩ := bind_eq_ok.mp h
  dsimp only at h
  split at h
  · cases h
  next hrev =>
  split at h
  · cases h
  next horigin =>
  have hrev : desired.revision = current.revision := by simpa [eq_comm] using hrev
  have horigin : desired.migratedFromSha256 = current.migratedFromSha256 := by
    simpa [eq_comm] using horigin
  refine ⟨current, hread, hrev, horigin, ?_⟩
  split at h
  next heq => cases h; exact .inl ⟨heq.symm, rfl, rfl⟩
  next hne =>
  split at h
  · cases h
  next hmax =>
  obtain ⟨_, hkeys, -⟩ := bind_eq_ok.mp h
  obtain ⟨written', t'', hsave', hsaved⟩ := save_eq ht hread hrev horigin
    (desirable_of_checkKeys (validateProfiles_of_checkDesired hcheck) hkeys) (Ne.symm hne) hmax
  rw [hsave] at hsave'
  cases hsave'
  exact .inr ⟨Ne.symm hne, hmax, hsaved⟩

lemma saveFile_ok {now f' : Bytes} {file : Option Bytes} {desired written : ProfileStoreSnapshot}
    (h : saveFile now file desired = .ok (written, f')) :
    ∃ current, load file = .ok current ∧ desired.revision = current.revision ∧
      desired.migratedFromSha256 = current.migratedFromSha256 ∧
      ((desired = current ∧ written = current ∧ file = some f') ∨
        (desired ≠ current ∧ SavedFile current desired written f')) := by
  unfold saveFile at h
  obtain ⟨_, -, h⟩ := bind_eq_ok.mp h
  obtain ⟨⟨f, t⟩, hopen, h⟩ := bind_eq_ok.mp h
  obtain ⟨⟨w, t'⟩, hsave, h⟩ := bind_eq_ok.mp h
  cases h
  obtain ⟨hfile, hvalid, hrange, -⟩ := openTables_ok hopen
  obtain ⟨current, hread, hrev, horigin, hcases⟩ := save_ok hvalid hsave
  refine ⟨current, by simp only [load, hopen, ok_bind, hread], hrev, horigin, ?_⟩
  rcases hcases with ⟨heq, hwritten, -⟩ | ⟨hne, hmax, hsaved⟩
  · rw [if_pos (hwritten.trans heq.symm)]
    exact .inl ⟨heq, hwritten, hfile⟩
  · have hwritten : written ≠ desired := by
      intro he
      have := hsaved.revision
      rw [he] at this
      omega
    rw [if_neg hwritten]
    have hrange' : t'.repository.revision ≤ int64Max := by
      obtain ⟨-, -, -, hcrev, -⟩ := stores_of_readSnapshot hvalid hread
      obtain ⟨-, -, -, hwrev, -⟩ := stores_of_readSnapshot hsaved.valid hsaved.read
      have := hsaved.revision
      omega
    refine .inr ⟨hne, ?_, hsaved.revision, hsaved.origin, hsaved.profiles⟩
    simp only [load, openTables_commit hopen hsaved.valid hrange', ok_bind, hsaved.read]

end File

end CcsTrans.Storage
