import CcsTrans.Json.Length
import CcsTrans.Config.ApplicationConfig
import CcsTrans.Repository.Disk

/-!
The journal of a transaction.

Before both files of a repository are changed, a directory is published with the
configuration before and after and a manifest, which says what the database is before and
after. The directory appears as a whole; its files are deleted one by one.
-/

namespace CcsTrans.Repository

open CcsTrans.Text CcsTrans.Core CcsTrans.Json CcsTrans.Config CcsTrans.Storage CcsTrans.Fallible
open CcsTrans.Durable

def kJournalSchema : Bytes := str "ccs-trans.repository-transaction/v1"
def kDatabaseBackupDirectoryPrefix : Bytes := str "replaced-db-"
def kMaxManifestBytes : ℕ := 1024 * 1024

/-- `valid_database_backup_directory_name`. -/
def validDatabaseBackupDirectoryName (name : Bytes) : Bool :=
  name.length == kDatabaseBackupDirectoryPrefix.length + 64 &&
  startsWith kDatabaseBackupDirectoryPrefix name &&
  (name.drop kDatabaseBackupDirectoryPrefix.length).all fun b => isDigit b || (97 ≤ b && b ≤ 102)

structure RepositoryJournal where
  kind : Bytes
  oldConfig : Option Bytes := none
  newConfig : Bytes
  oldDatabaseExists : Bool := false
  oldProfileRevision : ℤ := 0
  targetProfileRevision : ℤ := 0
  oldMigrationHash : Option Bytes := none
  targetMigrationHash : Option Bytes := none
  oldDatabaseSha256 : Option Bytes := none
  targetDatabaseSha256 : Option Bytes := none
  oldDatabaseBackupDirectory : Option Bytes := none

/-! ### Writing -/

def optionalJson : Option Bytes → Value
  | some s => .str s
  | none => .null

/-- The manifest, its members by name. -/
def manifestJson (j : RepositoryJournal) : Members :=
  [(str "kind", .str j.kind),
   (str "new_config_sha256", .str (sha256Hex j.newConfig)),
   (str "old_config_exists", .bool j.oldConfig.isSome),
   (str "old_config_sha256", optionalJson (j.oldConfig.map sha256Hex)),
   (str "old_database_backup_directory", optionalJson j.oldDatabaseBackupDirectory),
   (str "old_database_exists", .bool j.oldDatabaseExists),
   (str "old_database_sha256", optionalJson j.oldDatabaseSha256),
   (str "old_migration_hash", optionalJson j.oldMigrationHash),
   (str "old_profile_revision", .int (Int64.ofInt j.oldProfileRevision)),
   (str "schema_version", .str kJournalSchema),
   (str "target_database_sha256", optionalJson j.targetDatabaseSha256),
   (str "target_migration_hash", optionalJson j.targetMigrationHash),
   (str "target_profile_revision", .int (Int64.ofInt j.targetProfileRevision))]

def manifestNames : List Bytes :=
  [str "kind", str "new_config_sha256", str "old_config_exists", str "old_config_sha256",
   str "old_database_backup_directory", str "old_database_exists", str "old_database_sha256",
   str "old_migration_hash", str "old_profile_revision", str "schema_version",
   str "target_database_sha256", str "target_migration_hash", str "target_profile_revision"]

/-- The files of a journal with the text of its manifest. -/
def journalFiles (j : RepositoryJournal) (text : Bytes) : JournalFiles :=
  ⟨some (text ++ [ch '\n']), j.oldConfig, some j.newConfig⟩

/-- How a directory is written under a temporary name. -/
def stagingSteps (j : RepositoryJournal) : List DiskStep :=
  [ioStep "failed to create transaction directory: " id] ++
    (if j.oldConfig.isSome then [writeDurableFile] else []) ++
    [writeDurableFile, writeDurableFile, syncDirectory]

/-- How it is published. -/
def publishSteps (files : JournalFiles) : List DiskStep :=
  [ioStep "failed to publish repository transaction: " fun d => { d with transaction := some files },
   syncDirectory]

section Journal

variable [Library]

/-- `write_journal`. -/
def writeJournal (j : RepositoryJournal) : Program Unit := do
  if ← Prog.look fun d => d.transaction.isSome then
    throw ⟨.recoveryRequired, str "unfinished repository transaction requires recovery"⟩
  match dumpPretty (.obj (manifestJson j)) with
  | none => throw ⟨.io, Library.whatDump (.obj (manifestJson j))⟩
  | some text => block (stagingSteps j ++ publishSteps (journalFiles j text))

/-! ### Reading -/

/-- The name of the type of a value. -/
def typeName : Value → String
  | .null => "null"
  | .bool _ => "boolean"
  | .int _ | .uint _ | .float _ => "number"
  | .str _ => "string"
  | .arr _ => "array"
  | .obj _ => "object"

/-- `value(key, "")`, which refuses what is not a string. -/
def valueString (ms : Members) (key : String) : Except Bytes Bytes :=
  match find (str key) ms with
  | none => .ok []
  | some (.str s) => .ok s
  | some v => .error (str "[json.exception.type_error.302] type must be string, but is " ++
      str (typeName v))

def missingField (key : String) : RepositoryError :=
  ⟨.recoveryRequired, str "journal is missing field: " ++ str key⟩

def wrongType (key : String) : RepositoryError :=
  ⟨.recoveryRequired, str "journal field has wrong type: " ++ str key⟩

/-- `read_optional_string`. -/
def readOptionalString (ms : Members) (key : String) : Except RepositoryError (Option Bytes) :=
  match find (str key) ms with
  | none => .error (missingField key)
  | some .null => .ok none
  | some (.str s) => .ok (some s)
  | some _ => .error (wrongType key)

/-- `read_optional_string_if_present`. -/
def readOptionalStringIfPresent (ms : Members) (key : String) :
    Except RepositoryError (Option Bytes) :=
  match find (str key) ms with
  | none | some .null => .ok none
  | some (.str s) => .ok (some s)
  | some _ => .error (wrongType key)

/-- A revision in the manifest, converted to 64 bits with a sign. -/
def revisionOf : Option Value → Option ℤ
  | some (.int n) => some n.toInt
  | some (.uint n) => some n.toInt64.toInt
  | _ => none

def manifestInvalid : RepositoryError :=
  ⟨.recoveryRequired, str "repository transaction manifest is invalid"⟩

/-- The manifest: its members, whether there was a configuration, and the journal but for the
configurations. -/
def readManifest (bytes : Bytes) : Except RepositoryError (Members × Bool × RepositoryJournal) :=
  match parse bytes with
  | .error e => .error ⟨.recoveryRequired,
      str "failed to parse repository transaction manifest: " ++ Library.what e⟩
  | .ok (.obj ms) => do
    match valueString ms "schema_version" with
    | .error e => throw ⟨.recoveryRequired, str "repository recovery failed: " ++ e⟩
    | .ok version => if version ≠ kJournalSchema then throw manifestInvalid
    match find (str "kind") ms, find (str "old_config_exists") ms,
        find (str "old_database_exists") ms, revisionOf (find (str "old_profile_revision") ms),
        revisionOf (find (str "target_profile_revision") ms) with
    | some (.str kind), some (.bool oldConfigExists), some (.bool oldDatabaseExists),
        some oldRevision, some targetRevision =>
      let oldMigrationHash ← readOptionalString ms "old_migration_hash"
      let targetMigrationHash ← readOptionalString ms "target_migration_hash"
      let oldDatabaseSha256 ← readOptionalStringIfPresent ms "old_database_sha256"
      let targetDatabaseSha256 ← readOptionalStringIfPresent ms "target_database_sha256"
      let backup ← readOptionalStringIfPresent ms "old_database_backup_directory"
      if !backup.all fun name => validDatabaseBackupDirectoryName name && kind == str "migration" &&
          oldDatabaseExists && oldDatabaseSha256.isSome then
        throw ⟨.recoveryRequired, str "journal database backup reference is invalid"⟩
      return (ms, oldConfigExists, ⟨kind, none, [], oldDatabaseExists, oldRevision, targetRevision,
        oldMigrationHash, targetMigrationHash, oldDatabaseSha256, targetDatabaseSha256, backup⟩)
    | _, _, _, _, _ => throw manifestInvalid
  | .ok _ => .error manifestInvalid

/-- The hash of the configuration before is there when the configuration is. -/
def checkOldHash (ms : Members) (oldConfig : Option Bytes) : Except RepositoryError Unit := do
  match oldConfig, ← readOptionalString ms "old_config_sha256" with
  | some content, some hash =>
    if hash ≠ sha256Hex content then
      throw ⟨.recoveryRequired, str "journal old config hash mismatch"⟩
  | some _, none => throw ⟨.recoveryRequired, str "journal old config hash mismatch"⟩
  | none, some _ => throw ⟨.recoveryRequired, str "journal has hash for absent old config"⟩
  | none, none => return ()

def checkNewHash (ms : Members) (newConfig : Bytes) : Except RepositoryError Unit :=
  match find (str "new_config_sha256") ms with
  | some (.str hash) =>
    if hash = sha256Hex newConfig then .ok ()
    else .error ⟨.recoveryRequired, str "journal new config hash mismatch"⟩
  | _ => .error ⟨.recoveryRequired, str "journal new config hash mismatch"⟩

/-- The configuration before, when there was one. -/
def readOldConfig (files : JournalFiles) (existed : Bool) : Except RepositoryError (Option Bytes) :=
  if existed then
    some <$> readBoundedFile files.oldConfig kMaxConfigDocumentBytes "journal old config"
  else .ok none

/-- `read_journal`. -/
def readJournal (files : JournalFiles) : Except RepositoryError RepositoryJournal := do
  let bytes ← readBoundedFile files.manifest kMaxManifestBytes "repository transaction manifest"
  let (ms, oldConfigExists, journal) ← readManifest bytes
  let oldConfig ← readOldConfig files oldConfigExists
  let newConfig ← readBoundedFile files.newConfig kMaxConfigDocumentBytes "journal new config"
  checkOldHash ms oldConfig
  checkNewHash ms newConfig
  return { journal with oldConfig := oldConfig, newConfig := newConfig }

/-! ### What is written is read back -/

omit [Library] in
lemma validUtf8_of_hex {s : Bytes} (h : s.all (fun b => isDigit b || (97 ≤ b && b ≤ 102)) = true) :
    validUtf8 s = true := by
  refine validUtf8_of_ascii fun b hb => ?_
  have hhex := List.all_eq_true.mp h b hb
  simp only [isDigit, Bool.or_eq_true, Bool.and_eq_true, decide_eq_true_eq] at hhex
  rcases hhex with hb | hb
  · exact UInt8.le_trans hb.2 (by decide)
  · exact UInt8.le_trans hb.2 (by decide)

/-- A journal as this program writes it. -/
structure RepositoryJournal.InOrder (j : RepositoryJournal) : Prop where
  kind : j.kind ∈ [str "commit", str "initialize", str "migration"]
  oldConfig : ∀ content ∈ j.oldConfig, content.length ≤ kMaxConfigDocumentBytes
  newConfig : j.newConfig.length ≤ kMaxConfigDocumentBytes
  oldRevision : (Int64.ofInt j.oldProfileRevision).toInt = j.oldProfileRevision
  targetRevision : (Int64.ofInt j.targetProfileRevision).toInt = j.targetProfileRevision
  hashes : ∀ hash ∈ [j.oldMigrationHash, j.targetMigrationHash, j.oldDatabaseSha256,
    j.targetDatabaseSha256], hash.all validSha256 = true
  backup : j.oldDatabaseBackupDirectory.all (fun name => validDatabaseBackupDirectoryName name &&
    j.kind == str "migration" && j.oldDatabaseExists && j.oldDatabaseSha256.isSome) = true

omit [Library] in
lemma utf8Run_append_start {s t : Bytes} (hs : utf8Run .start s = some .start) :
    utf8Run .start (s ++ t) = utf8Run .start t := by
  rw [utf8Run_append, hs]
  rfl

/-- A text of the manifest: it is UTF-8 and not long. -/
def Short (s : Bytes) : Prop := validUtf8 s = true ∧ s.length ≤ 80

omit [Library] in
lemma short_sha256 {s : Bytes} (h : validSha256 s = true) : Short s := by
  simp only [validSha256, Bool.and_eq_true, beq_iff_eq] at h
  exact ⟨validUtf8_of_hex h.2, by omega⟩

omit [Library] in
lemma validSha256_sha256Hex (content : Bytes) : validSha256 (sha256Hex content) = true := by
  simp only [validSha256, Bool.and_eq_true, beq_iff_eq, length_sha256Hex, List.all_eq_true, true_and]
  exact fun b hb => sha256Hex_isHex hb

omit [Library] in
lemma short_backup {name : Bytes} (h : validDatabaseBackupDirectoryName name = true) : Short name := by
  simp only [validDatabaseBackupDirectoryName, Bool.and_eq_true, beq_iff_eq] at h
  obtain ⟨⟨hlen, hprefix⟩, hhex⟩ := h
  obtain ⟨t, rfl⟩ := startsWith_iff.mp hprefix
  rw [List.drop_left] at hhex
  have ht := validUtf8_of_hex hhex
  simp only [validUtf8, decide_eq_true_eq] at ht
  refine ⟨?_, ?_⟩
  · simp only [validUtf8, decide_eq_true_eq]
    rw [utf8Run_append_start (by decide), ht]
  · have : kDatabaseBackupDirectoryPrefix.length = 12 := by decide
    omega

omit [Library] in
lemma RepositoryJournal.InOrder.short {j : RepositoryJournal} (h : j.InOrder) :
    ∀ m ∈ manifestJson j, ∀ s, m.2 = .str s → Short s := by
  have hoptional : ∀ {x : Option Bytes}, (∀ s ∈ x, Short s) → ∀ s, optionalJson x = .str s →
      Short s := by
    intro x hx s hs
    cases x with
    | none => cases hs
    | some t => cases hs; exact hx _ rfl
  have hhash : ∀ {x : Option Bytes}, x.all validSha256 = true → ∀ s ∈ x, Short s := by
    intro x hx s hs
    cases hs
    exact short_sha256 hx
  have hkind : Short j.kind := by
    have := h.kind
    simp only [List.mem_cons, List.not_mem_nil, or_false] at this
    rcases this with hk | hk | hk
    · rw [hk]; exact ⟨by decide, by decide⟩
    · rw [hk]; exact ⟨by decide, by decide⟩
    · rw [hk]; exact ⟨by decide, by decide⟩
  have hbackup : ∀ s ∈ j.oldDatabaseBackupDirectory, Short s := by
    intro s hs
    have hb := h.backup
    rw [Option.mem_def.mp hs] at hb
    simp only [Option.all_some, Bool.and_eq_true] at hb
    exact short_backup hb.1.1.1
  have hold : ∀ s ∈ j.oldConfig.map sha256Hex, Short s := by
    intro s hs
    obtain ⟨c, -, rfl⟩ := Option.mem_map.mp hs
    exact short_sha256 (validSha256_sha256Hex c)
  have hversion : Short kJournalSchema := ⟨by decide, by decide⟩
  have hnew := short_sha256 (validSha256_sha256Hex j.newConfig)
  have hhashes := h.hashes
  simp only [List.forall_mem_cons] at hhashes
  obtain ⟨h1, h2, h3, h4, -⟩ := hhashes
  simp only [manifestJson, List.forall_mem_cons, Value.str.injEq, forall_eq', hkind, hnew, hversion,
    true_and, reduceCtorEq, false_implies, implies_true, List.not_mem_nil, and_true]
  exact ⟨hoptional hold, hoptional hbackup, hoptional (hhash h3), hoptional (hhash h1),
    hoptional (hhash h4), hoptional (hhash h2)⟩

/-- A value that has no others in it. -/
def Flat : Value → Prop
  | .null | .bool _ | .int _ | .str _ => True
  | _ => False

omit [Library] in
lemma flat_optionalJson (x : Option Bytes) : Flat (optionalJson x) := by cases x <;> trivial

/-- The values of a manifest are flat, and their texts short. -/
lemma flat_manifest {j : RepositoryJournal} (h : j.InOrder) :
    ∀ m ∈ manifestJson j, Writable m.2 ∧ widthAt 2 2 m.2 ≤ 482 := by
  have hflat : ∀ v : Value, Flat v → (∀ s, v = .str s → Short s) →
      Writable v ∧ widthAt 2 2 v ≤ 482 := by
    intro v hv hs
    cases v with
    | str s =>
      obtain ⟨hutf, hlen⟩ := hs s rfl
      refine ⟨hutf, ?_⟩
      simp only [widthAt]
      omega
    | null | bool | int => exact ⟨trivial, by simp [widthAt]⟩
    | _ => cases hv
  have hall : ∀ m ∈ manifestJson j, Flat m.2 := by
    simp only [manifestJson, List.forall_mem_cons, flat_optionalJson, true_and]
    simp [Flat]
  exact fun m hm => hflat m.2 (hall m hm) (h.short m hm)

lemma widthMembers_le {ms : Members} {n : ℕ} (hnames : ∀ m ∈ ms, m.1.length ≤ 40)
    (hvalues : ∀ m ∈ ms, widthAt 2 2 m.2 ≤ n) : widthMembers 2 2 ms ≤ ms.length * (248 + n) := by
  induction ms with
  | nil => simp [widthMembers]
  | cons m ms ih =>
    obtain ⟨k, v⟩ := m
    rw [List.forall_mem_cons] at hnames hvalues
    dsimp only at hnames hvalues
    have := ih hnames.2 hvalues.2
    simp only [widthMembers, List.length_cons, Nat.add_mul, Nat.one_mul] at this ⊢
    omega

lemma manifest_written {j : RepositoryJournal} (h : j.InOrder) :
    ∃ text, dumpPretty (.obj (manifestJson j)) = some text ∧
      (text ++ [ch '\n']).length ≤ kMaxManifestBytes ∧
      parse (text ++ [ch '\n']) = .ok (.obj (canonMembers (manifestJson j))) := by
  have hflat := flat_manifest h
  have hwritable : Writable (.obj (manifestJson j)) :=
    proper_of_names manifestNames rfl (by decide) (by decide) fun m hm => (hflat m hm).1
  obtain ⟨text, htext⟩ := dumpAt_writable hwritable (some 2) 0
  refine ⟨text, htext, ?_, ?_⟩
  · have hlen := length_dumpAt_le htext
    have hnames : ∀ k ∈ (manifestJson j).map Prod.fst, k.length ≤ 40 := by
      rw [show (manifestJson j).map Prod.fst = manifestNames from rfl]
      decide
    have hwidth := widthMembers_le (n := 482)
      (fun m hm => hnames m.1 (List.mem_map_of_mem hm)) fun m hm => (hflat m hm).2
    have hcount : (manifestJson j).length = 13 := rfl
    simp only [Option.getD_some, widthAt, Nat.zero_add] at hlen
    rw [hcount] at hwidth
    simp only [List.length_append, List.length_singleton, kMaxManifestBytes]
    omega
  · rw [parse, parseTree_dumpPretty htext, map_ok, toDom_proper (proper_canon hwritable), canon]

omit [Library] in
lemma revisionOf_canon (n : ℤ) (h : (Int64.ofInt n).toInt = n) :
    revisionOf (some (canon (.int (Int64.ofInt n)))) = some n := by
  rw [canon]
  split
  next hpos =>
    have hmax := (Int64.ofInt n).toInt_lt
    simp only [revisionOf, Option.some.injEq]
    rw [h] at hpos hmax ⊢
    have hback : UInt64.toInt64 n.toNat.toUInt64 = Int64.ofInt n := by
      apply Int64.toBitVec_inj.mp
      apply BitVec.eq_of_toInt_eq
      rw [show (UInt64.toInt64 n.toNat.toUInt64).toBitVec = n.toNat.toUInt64.toBitVec from rfl,
        Int64.toInt_toBitVec, h]
      simp only [BitVec.toInt_eq_toNat_bmod, Nat.toUInt64_eq, UInt64.toBitVec_ofNat',
        BitVec.toNat_ofNat]
      rw [Int.bmod_eq_of_le] <;> omega
    rw [hback, h]
  next => simp only [revisionOf, h]

omit [Library] in
lemma readOptionalString_optionalJson {ms : Members} {key : String} {x : Option Bytes}
    (h : find (str key) ms = some (optionalJson x)) : readOptionalString ms key = .ok x := by
  cases x <;> simp only [readOptionalString, h, optionalJson]

omit [Library] in
lemma readOptionalStringIfPresent_optionalJson {ms : Members} {key : String} {x : Option Bytes}
    (h : find (str key) ms = some (optionalJson x)) : readOptionalStringIfPresent ms key = .ok x := by
  cases x <;> simp only [readOptionalStringIfPresent, h, optionalJson]

omit [Library] in
lemma canon_optionalJson (x : Option Bytes) : canon (optionalJson x) = optionalJson x := by
  cases x <;> rfl

omit [Library] in
/-- What the text of a manifest denotes. -/
lemma canonMembers_manifest (j : RepositoryJournal) : canonMembers (manifestJson j) =
    [(str "kind", .str j.kind),
     (str "new_config_sha256", .str (sha256Hex j.newConfig)),
     (str "old_config_exists", .bool j.oldConfig.isSome),
     (str "old_config_sha256", optionalJson (j.oldConfig.map sha256Hex)),
     (str "old_database_backup_directory", optionalJson j.oldDatabaseBackupDirectory),
     (str "old_database_exists", .bool j.oldDatabaseExists),
     (str "old_database_sha256", optionalJson j.oldDatabaseSha256),
     (str "old_migration_hash", optionalJson j.oldMigrationHash),
     (str "old_profile_revision", canon (.int (Int64.ofInt j.oldProfileRevision))),
     (str "schema_version", .str kJournalSchema),
     (str "target_database_sha256", optionalJson j.targetDatabaseSha256),
     (str "target_migration_hash", optionalJson j.targetMigrationHash),
     (str "target_profile_revision", canon (.int (Int64.ofInt j.targetProfileRevision)))] := by
  simp only [manifestJson, canonMembers, canon_optionalJson]
  rfl

lemma readManifest_written {j : RepositoryJournal} (h : j.InOrder) {bytes : Bytes}
    (hparse : parse bytes = .ok (.obj (canonMembers (manifestJson j)))) :
    readManifest bytes = .ok (canonMembers (manifestJson j), j.oldConfig.isSome,
      { j with oldConfig := none, newConfig := [] }) := by
  have hms := canonMembers_manifest j
  generalize canonMembers (manifestJson j) = ms at hparse hms
  have hversion : valueString ms "schema_version" = .ok kJournalSchema := by rw [hms]; rfl
  have hkind : find (str "kind") ms = some (.str j.kind) := by rw [hms]; rfl
  have hconfig : find (str "old_config_exists") ms = some (.bool j.oldConfig.isSome) := by
    rw [hms]; rfl
  have hdatabase : find (str "old_database_exists") ms = some (.bool j.oldDatabaseExists) := by
    rw [hms]; rfl
  have hold : revisionOf (find (str "old_profile_revision") ms) = some j.oldProfileRevision := by
    rw [hms, ← revisionOf_canon _ h.oldRevision]; rfl
  have htarget : revisionOf (find (str "target_profile_revision") ms) =
      some j.targetProfileRevision := by
    rw [hms, ← revisionOf_canon _ h.targetRevision]; rfl
  have h1 : readOptionalString ms "old_migration_hash" = .ok j.oldMigrationHash :=
    readOptionalString_optionalJson (by rw [hms]; rfl)
  have h2 : readOptionalString ms "target_migration_hash" = .ok j.targetMigrationHash :=
    readOptionalString_optionalJson (by rw [hms]; rfl)
  have h3 : readOptionalStringIfPresent ms "old_database_sha256" = .ok j.oldDatabaseSha256 :=
    readOptionalStringIfPresent_optionalJson (by rw [hms]; rfl)
  have h4 : readOptionalStringIfPresent ms "target_database_sha256" = .ok j.targetDatabaseSha256 :=
    readOptionalStringIfPresent_optionalJson (by rw [hms]; rfl)
  have h5 : readOptionalStringIfPresent ms "old_database_backup_directory" =
      .ok j.oldDatabaseBackupDirectory :=
    readOptionalStringIfPresent_optionalJson (by rw [hms]; rfl)
  simp only [readManifest, hparse, hversion, ne_eq, not_true_eq_false, if_false, hkind, hconfig,
    hdatabase, hold, htarget, h1, h2, h3, h4, h5, ok_bind, pure_eq_ok, h.backup, Bool.not_true,
    Bool.false_eq_true]

/-- **A journal that is written is read back.** -/
theorem readJournal_written {j : RepositoryJournal} (h : j.InOrder) :
    ∃ text, dumpPretty (.obj (manifestJson j)) = some text ∧
      readJournal (journalFiles j text) = .ok j := by
  obtain ⟨text, htext, hlen, hparse⟩ := manifest_written h
  refine ⟨text, htext, ?_⟩
  have hmanifest := readManifest_written h hparse
  have hms := canonMembers_manifest j
  generalize canonMembers (manifestJson j) = ms at hmanifest hms
  have hbytes : readBoundedFile (journalFiles j text).manifest kMaxManifestBytes
      "repository transaction manifest" = .ok (text ++ [ch '\n']) := by
    simp only [readBoundedFile, journalFiles, gt_iff_lt, not_lt.mpr hlen, if_false]
  have hold : readOldConfig (journalFiles j text) j.oldConfig.isSome = .ok j.oldConfig := by
    cases hc : j.oldConfig with
    | none => rfl
    | some content =>
      have hle := h.oldConfig content hc
      simp [readOldConfig, readBoundedFile, journalFiles, hc, not_lt.mpr hle]
  have hnew : readBoundedFile (journalFiles j text).newConfig kMaxConfigDocumentBytes
      "journal new config" = .ok j.newConfig := by
    simp [readBoundedFile, journalFiles, not_lt.mpr h.newConfig]
  have hhash : readOptionalString ms "old_config_sha256" = .ok (j.oldConfig.map sha256Hex) :=
    readOptionalString_optionalJson (by rw [hms]; rfl)
  have hcheck : checkOldHash ms j.oldConfig = .ok () := by
    rw [checkOldHash, hhash]
    cases j.oldConfig <;> simp
  have hcheck' : checkNewHash ms j.newConfig = .ok () := by
    have : find (str "new_config_sha256") ms = some (.str (sha256Hex j.newConfig)) := by
      rw [hms]; rfl
    simp only [checkNewHash, this, if_true]
  simp only [readJournal, hbytes, ok_bind, hmanifest, hold, hnew, hcheck, hcheck', pure_eq_ok]

/-- A journal of which a file is gone cannot be read. -/
lemma readJournal_torn {files : JournalFiles} {j j' : RepositoryJournal} {text : Bytes}
    (hj : readJournal (journalFiles j text) = .ok j)
    (hmanifest : files.manifest = none ∨ files.manifest = (journalFiles j text).manifest)
    (hfiles : files.manifest = none ∨ files.newConfig = none ∨
      (j.oldConfig.isSome = true ∧ files.oldConfig = none)) :
    readJournal files ≠ .ok j' := by
  intro h
  unfold readJournal at h hj
  obtain ⟨bytes, hbytes, h⟩ := bind_eq_ok.mp h
  obtain ⟨bytes', hbytes', hj⟩ := bind_eq_ok.mp hj
  rcases hmanifest with hnone | hsame
  · rw [hnone] at hbytes
    cases hbytes
  have hsome : files.manifest ≠ none := by rw [hsame]; simp [journalFiles]
  rw [hsame, hbytes'] at hbytes
  cases hbytes
  obtain ⟨⟨ms, existed, journal⟩, hread, hj⟩ := bind_eq_ok.mp hj
  rw [hread, ok_bind] at h
  obtain ⟨oldConfig, hold, hj⟩ := bind_eq_ok.mp hj
  obtain ⟨newConfig, hnew, hj⟩ := bind_eq_ok.mp hj
  obtain ⟨_, -, hj⟩ := bind_eq_ok.mp hj
  obtain ⟨_, -, hj⟩ := bind_eq_ok.mp hj
  have hoc : j.oldConfig = oldConfig := by cases hj; rfl
  obtain ⟨oldConfig', hold', h⟩ := bind_eq_ok.mp h
  obtain ⟨newConfig', hnew', -⟩ := bind_eq_ok.mp h
  rcases hfiles with hgone | hgone | ⟨hthere, hgone⟩
  · exact hsome hgone
  · rw [hgone] at hnew'
    cases hnew'
  · rw [hoc] at hthere
    unfold readOldConfig at hold hold'
    split_ifs at hold hold' with hexisted
    · rw [hgone] at hold'
      cases hold'
    · cases hold
      cases hthere

end Journal

end CcsTrans.Repository
