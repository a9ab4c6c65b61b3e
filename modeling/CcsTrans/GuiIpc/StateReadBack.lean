import CcsTrans.GuiIpc.JsonState

/-!
States that were written are read as they were.

For every part of a state: what its writer gives is a document, and its reader gives the part back.
A delta says of a part that has not changed neither what it was nor what it is, and so nothing of
such a part comes back.
-/

namespace CcsTrans.Gui

open CcsTrans.GuiIpc (IntegerType)

/-! ### The ranges of the numbers -/

structure RulesDiagnostic.Sized (v : RulesDiagnostic) : Prop where
  line : v.line < 2 ^ 64
  column : v.column < 2 ^ 64

def ApplicationStatus.Sized (v : ApplicationStatus) : Prop := IntegerType.int32.Holds v.lastExitCode

structure ProfileSummary.Sized (v : ProfileSummary) : Prop where
  key : IntegerType.int64.Holds v.key
  ruleCount : v.ruleCount < 2 ^ 64
  enabledRuleCount : v.enabledRuleCount < 2 ^ 64

def ProfileEditor.Sized (v : ProfileEditor) : Prop := IntegerType.int64.Holds v.key

structure RulesEditor.Sized (v : RulesEditor) : Prop where
  profileKey : IntegerType.int64.Holds v.profileKey
  diagnostic : ∀ d ∈ v.diagnostic, d.Sized

def DraftStatus.Sized (v : DraftStatus) : Prop := v.revision < 2 ^ 64

def CommandStatus.Sized (v : CommandStatus) : Prop := v.sequence < 2 ^ 64

def Selection.Sized (v : Selection) : Prop := ∀ key ∈ v.profileKey, IntegerType.int64.Holds key

/-- The numbers of a state are those of the types that the program keeps them in. -/
structure Snapshot.Sized (s : Snapshot) : Prop where
  revision : s.revision < 2 ^ 64
  application : s.application.Sized
  profiles : ∀ p ∈ s.profiles, p.Sized
  selection : s.selection.Sized
  profileEditor : ∀ e ∈ s.profileEditor, e.Sized
  rulesEditor : ∀ e ∈ s.rulesEditor, e.Sized
  draft : s.draft.Sized
  lastCommand : ∀ c ∈ s.lastCommand, c.Sized

structure StateDelta.Sized (d : StateDelta) : Prop where
  fromRevision : d.fromRevision < 2 ^ 64
  revision : d.revision < 2 ^ 64
  application : ∀ a ∈ d.application, a.Sized
  profiles : ∀ ps ∈ d.profiles, ∀ p ∈ ps, p.Sized
  selection : ∀ s ∈ d.selection, s.Sized
  profileEditor : ∀ e ∈ d.profileEditor, e.Sized
  rulesEditor : ∀ e ∈ d.rulesEditor, e.Sized
  draft : ∀ s ∈ d.draft, s.Sized
  lastCommand : ∀ c ∈ d.lastCommand, c.Sized

/-- A profile is named by its name and by its key, or not at all. -/
def Selection.Paired (v : Selection) : Prop := v.profileId.isSome = v.profileKey.isSome

instance (v : Selection) : Decidable v.Paired := inferInstanceAs (Decidable (_ = _))

end CcsTrans.Gui

namespace CcsTrans.GuiIpc

open CcsTrans.Text CcsTrans.Json CcsTrans.Fallible
open CcsTrans.Config (member checkObjectKeys_ok)
open CcsTrans.Gui

/-! ### Documents -/

/-- The members of an object. -/
def members : Value → Members
  | .obj ms => ms
  | _ => []

lemma document_nullable {α : Type} {f : α → Value} (h : ∀ a, Document (f a)) (o : Option α) :
    Document (nullable f o) := by
  cases o with
  | none => trivial
  | some a => exact h a

lemma document_arr {α : Type} {f : α → Value} (h : ∀ a, Document (f a)) (as : List α) :
    Document (.arr (as.map f)) := by
  refine proper_arr.mpr fun x hx => ?_
  obtain ⟨a, -, rfl⟩ := List.mem_map.mp hx
  exact h a

lemma document_str (s : Bytes) : Document (.str s) := trivial
lemma document_bool (b : Bool) : Document (.bool b) := trivial
lemma document_uint (n : UInt64) : Document (.uint n) := trivial
lemma document_natJson (n : ℕ) : Document (natJson n) := trivial
lemma document_intJson (n : ℤ) : Document (intJson n) := trivial

lemma document_fieldValueJson (v : FieldValue) : Document (fieldValueJson v) := by cases v <;> trivial

lemma document_diagnosticJson (v : RulesDiagnostic) : Document (diagnosticJson v) :=
  document_obj ((members (diagnosticJson {})).map Prod.fst) rfl (by decide)
    (by simp [document_str, document_natJson])

lemma document_applicationJson (v : ApplicationStatus) : Document (applicationJson v) :=
  document_obj ((members (applicationJson {})).map Prod.fst) rfl (by decide)
    (by simp [document_str, document_uint, document_intJson])

lemma document_storageJson (v : StorageStatus) : Document (storageJson v) :=
  document_obj ((members (storageJson {})).map Prod.fst) rfl (by decide)
    (by simp [document_str, document_bool])

lemma document_fieldStateJson (v : FieldState) : Document (fieldStateJson v) :=
  document_obj ((members (fieldStateJson {})).map Prod.fst) rfl (by decide)
    (by simp [document_str, document_bool, document_nullable document_uint,
      document_nullable document_fieldValueJson])

lemma document_profileSummaryJson (v : ProfileSummary) : Document (profileSummaryJson v) :=
  document_obj ((members (profileSummaryJson {})).map Prod.fst) rfl (by decide)
    (by simp [document_str, document_bool, document_natJson, document_intJson,
      document_nullable document_str])

lemma document_profileEditorJson (v : ProfileEditor) : Document (profileEditorJson v) :=
  document_obj ((members (profileEditorJson {})).map Prod.fst) rfl (by decide)
    (by simp only [List.forall_mem_cons, document_arr document_fieldStateJson, document_str,
      document_intJson, true_and]; simp)

lemma document_rulesEditorJson (v : RulesEditor) : Document (rulesEditorJson v) :=
  document_obj ((members (rulesEditorJson {})).map Prod.fst) rfl (by decide)
    (by simp [document_str, document_intJson, document_nullable document_diagnosticJson])

lemma document_draftJson (v : DraftStatus) : Document (draftJson v) :=
  document_obj ((members (draftJson {})).map Prod.fst) rfl (by decide)
    (by simp [document_str, document_bool, document_natJson])

lemma document_commandStatusJson (v : CommandStatus) : Document (commandStatusJson v) :=
  document_obj ((members (commandStatusJson {})).map Prod.fst) rfl (by decide)
    (by simp [document_str, document_natJson, document_nullable document_str])

lemma document_selectionJson (v : Selection) : Document (selectionJson v) :=
  document_obj ((members (selectionJson {})).map Prod.fst) rfl (by decide)
    (by simp [document_nullable document_str, document_nullable document_intJson])

lemma document_snapshotJson (v : Snapshot) : Document (snapshotJson v) := by
  refine document_obj ((members (snapshotJson {})).map Prod.fst) rfl (by decide) ?_
  simp only [List.forall_mem_cons, document_applicationJson, document_arr document_fieldStateJson,
    document_bool, document_draftJson, document_nullable document_commandStatusJson,
    document_nullable document_profileEditorJson, document_arr document_profileSummaryJson,
    document_natJson, document_nullable document_rulesEditorJson, document_selectionJson,
    document_storageJson, true_and]
  simp

/-! ### Parts of a state -/

lemma canon_obj_ne_null {ms : Members} : canon (.obj ms) ≠ .null := by simp [canon]

lemma parseDiagnostic_canon {v : RulesDiagnostic} (h : v.Sized) (path : Bytes) :
    parseDiagnostic (canon (diagnosticJson v)) path = .ok v :=
  then_ok (checkObjectKeys_ok rfl rfl) <| then_ok rfl <| then_ok (readNat_uint h.line _) <|
    then_ok (readNat_uint h.column _) <| then_ok rfl <| then_ok rfl <| then_ok rfl rfl

lemma int64_of_int32 {n : ℤ} (h : IntegerType.int32.Holds n) : IntegerType.int64.Holds n :=
  ⟨(by decide : IntegerType.int64.min ≤ IntegerType.int32.min).trans h.1,
    h.2.trans (by decide : IntegerType.int32.max ≤ IntegerType.int64.max)⟩

lemma parseApplication_canon {v : ApplicationStatus} (h : v.Sized) (path : Bytes) :
    parseApplication (canon (applicationJson v)) path = .ok v :=
  then_ok (checkObjectKeys_ok rfl rfl) <| then_ok rfl <| then_ok rfl <|
    then_ok (readUInt16_uint v.listenerPort _) <| then_ok rfl <|
    then_ok (readInteger_ofInt rfl h (int64_of_int32 h) _) rfl

lemma parseStorage_canon (v : StorageStatus) (path : Bytes) :
    parseStorage (canon (storageJson v)) path = .ok v :=
  then_ok (checkObjectKeys_ok rfl rfl) <| then_ok rfl <| then_ok rfl <| then_ok rfl <| then_ok rfl <|
    then_ok rfl rfl

lemma readNullable_uint (o : Option UInt64) (path : Bytes) :
    readNullable readUInt64 (canon (nullable .uint o)) path = .ok o :=
  readNullable_canon path (fun n _ => readUInt64_uint n path) (by simp [canon])

lemma readNullable_str (o : Option Bytes) (path : Bytes) :
    readNullable readString (canon (nullable .str o)) path = .ok o :=
  readNullable_canon path (fun _ _ => rfl) (by simp [canon])

lemma parseFieldState_canon (v : FieldState) (path : Bytes) :
    parseFieldState (canon (fieldStateJson v)) path = .ok v :=
  then_ok (checkObjectKeys_ok rfl rfl) <| then_ok rfl <| then_ok rfl <| then_ok rfl <| then_ok rfl <|
    then_ok (readNullable_uint v.minimum _) <| then_ok (readNullable_uint v.maximum _) <|
    then_ok rfl <| then_ok rfl <| then_ok rfl <|
    then_ok (readItems_canon _ (fun _ _ _ => rfl) 0) <|
    then_ok (readNullable_canon _ (fun a _ => parseFieldValue_canon a _) fieldValueJson_ne_null) rfl

lemma parseProfileSummary_canon {v : ProfileSummary} (h : v.Sized) (path : Bytes) :
    parseProfileSummary (canon (profileSummaryJson v)) path = .ok v :=
  then_ok (checkObjectKeys_ok rfl rfl) <| then_ok (readInteger_ofInt rfl h.key h.key _) <|
    then_ok rfl <| then_ok rfl <| then_ok rfl <| then_ok rfl <|
    then_ok (readNat_uint h.ruleCount _) <| then_ok (readNat_uint h.enabledRuleCount _) <|
    then_ok (readNullable_str v.protocol _) rfl

lemma parseProfileEditor_canon {v : ProfileEditor} (h : v.Sized) (path : Bytes) :
    parseProfileEditor (canon (profileEditorJson v)) path = .ok v :=
  then_ok (checkObjectKeys_ok rfl rfl) <| then_ok (readInteger_ofInt rfl h h _) <| then_ok rfl <|
    then_ok rfl <| then_ok (readItems_canon _ (fun f _ => parseFieldState_canon f) 0) rfl

lemma parseRulesEditor_canon {v : RulesEditor} (h : v.Sized) (path : Bytes) :
    parseRulesEditor (canon (rulesEditorJson v)) path = .ok v :=
  then_ok (checkObjectKeys_ok rfl rfl) <| then_ok (readInteger_ofInt rfl h.profileKey h.profileKey _) <|
    then_ok rfl <| then_ok rfl <|
    then_ok (readNullable_canon _ (fun d hd => parseDiagnostic_canon (h.diagnostic d hd) _)
      fun _ => canon_obj_ne_null) rfl

lemma parseDraft_canon {v : DraftStatus} (h : v.Sized) (path : Bytes) :
    parseDraft (canon (draftJson v)) path = .ok v :=
  then_ok (checkObjectKeys_ok rfl rfl) <| then_ok rfl <| then_ok rfl <| then_ok (readNat_uint h _) <|
    then_ok rfl rfl

lemma parseCommandStatusJson_canon {v : CommandStatus} (h : v.Sized) (path : Bytes) :
    parseCommandStatusJson (canon (commandStatusJson v)) path = .ok v :=
  then_ok (checkObjectKeys_ok rfl rfl) <| then_ok (readNat_uint h _) <| then_ok rfl <|
    then_ok (readName_name parseResultCode_iff _ v.outcome _) <|
    then_ok (readName_name parseErrorCode_iff _ v.error _) <| then_ok rfl <| then_ok rfl <|
    then_ok rfl <| then_ok (readNullable_str v.recoveryCommand _) rfl

/-- A selection is read back when it has a name and a key, or neither. -/
lemma parseSelection_canon {v : Selection} (h : v.Sized) (path : Bytes) :
    parseSelection (canon (selectionJson v)) path = if v.Paired then .ok v
      else .error (path ++ str " must contain both profile_id and profile_key or neither") := by
  refine then_ok (checkObjectKeys_ok rfl rfl) <| then_ok (readNullable_str v.profileId _) <|
    then_ok (readNullable_canon _ (fun key hkey => readInteger_ofInt rfl (h key hkey) (h key hkey) _)
      fun _ => canon_int_ne_null _) ?_
  by_cases hpaired : v.profileId.isSome = v.profileKey.isSome
  · simp [Selection.Paired, hpaired]
  · simp only [Selection.Paired, hpaired, ne_eq, not_false_eq_true, if_true, if_false]
    rfl

/-! ### Snapshots -/

lemma then_error {α β : Type} {x : Except Bytes α} {e : Bytes} {f : α → Except Bytes β}
    (h : x = .error e) : (x >>= f) = .error e := by
  rw [h]
  rfl

/-- The error of a selection of which one part is missing. -/
def unpaired : Bytes := str "$.selection must contain both profile_id and profile_key or neither"

section Profiles

variable {ps : List ProfileSummary} (h : ∀ p ∈ ps, p.Sized)

include h in
lemma readItems_profiles (path : Bytes) :
    readItems parseProfileSummary path 0 (canonItems (ps.map profileSummaryJson)) = .ok ps :=
  readItems_canon _ (fun p hp => parseProfileSummary_canon (h p hp)) 0

end Profiles

lemma readItems_fields (fs : List FieldState) (path : Bytes) :
    readItems parseFieldState path 0 (canonItems (fs.map fieldStateJson)) = .ok fs :=
  readItems_canon _ (fun f _ => parseFieldState_canon f) 0

lemma readNullable_profileEditor {o : Option ProfileEditor} (h : ∀ e ∈ o, e.Sized) (path : Bytes) :
    readNullable parseProfileEditor (canon (nullable profileEditorJson o)) path = .ok o :=
  readNullable_canon _ (fun e he => parseProfileEditor_canon (h e he) _) fun _ => canon_obj_ne_null

lemma readNullable_rulesEditor {o : Option RulesEditor} (h : ∀ e ∈ o, e.Sized) (path : Bytes) :
    readNullable parseRulesEditor (canon (nullable rulesEditorJson o)) path = .ok o :=
  readNullable_canon _ (fun e he => parseRulesEditor_canon (h e he) _) fun _ => canon_obj_ne_null

lemma readNullable_commandStatus {o : Option CommandStatus} (h : ∀ c ∈ o, c.Sized) (path : Bytes) :
    readNullable parseCommandStatusJson (canon (nullable commandStatusJson o)) path = .ok o :=
  readNullable_canon _ (fun c hc => parseCommandStatusJson_canon (h c hc) _) fun _ => canon_obj_ne_null

lemma parseSnapshotJson_canon {s : Snapshot} (h : s.Sized) :
    parseSnapshotJson (canon (snapshotJson s)) (str "$") =
      if s.selection.Paired then .ok s else .error unpaired := by
  have hselection := parseSelection_canon h.selection (str "$" ++ str ".selection")
  refine then_ok (checkObjectKeys_ok rfl rfl) <| then_ok (readNat_uint h.revision _) <|
    then_ok (parseApplication_canon h.application _) <| then_ok rfl <| then_ok rfl ?_
  split_ifs at hselection ⊢ with hpaired
  · exact then_ok hselection <| then_ok (parseDraft_canon h.draft _) <|
      then_ok (parseStorage_canon s.storage _) <| then_ok rfl <| then_ok rfl <|
      then_ok (readItems_profiles h.profiles _) <| then_ok (readItems_fields s.applicationFields _) <|
      then_ok (readNullable_profileEditor h.profileEditor _) <|
      then_ok (readNullable_rulesEditor h.rulesEditor _) <|
      then_ok (readNullable_commandStatus h.lastCommand _) rfl
  · exact then_error hselection

/-! ### Members that may be missing -/

section Members

variable {α : Type} {k : Bytes}

lemma find_append (ms ns : Members) : find k (ms ++ ns) = (find k ms).or (find k ns) := by
  induction ms with
  | nil => rfl
  | cons m ms ih =>
    obtain ⟨l, v⟩ := m
    rw [List.cons_append, find, find]
    split_ifs
    · rfl
    · exact ih

lemma find_singleton (name : String) (v : Value) :
    find k [(str name, v)] = if k = str name then some v else none := rfl

lemma find_optionalMember (name : String) (f : α → Value) (o : Option α) :
    find k (optionalMember name f o) = if k = str name then o.map f else none := by
  cases o with
  | none => simp [optionalMember, find]
  | some a => rfl

lemma find_changedMember (name : String) (f : α → Value) (changed : Bool) (o : Option α) :
    find k (changedMember name f changed o) =
      if k = str name ∧ changed = true then some (nullable f o) else none := by
  cases changed with
  | false => simp [changedMember, find]
  | true => simp [changedMember, find]

lemma find_canonMembers (ms : Members) : find k (canonMembers ms) = (find k ms).map canon := by
  induction ms with
  | nil => rfl
  | cons m ms ih =>
    obtain ⟨l, v⟩ := m
    rw [canonMembers, find, find]
    split_ifs
    · rfl
    · exact ih

lemma sublist_optionalMember (name : String) (f : α → Value) (o : Option α) :
    ((optionalMember name f o).map Prod.fst).Sublist [str name] := by
  cases o <;> simp [optionalMember]

lemma sublist_changedMember (name : String) (f : α → Value) (changed : Bool) (o : Option α) :
    ((changedMember name f changed o).map Prod.fst).Sublist [str name] := by
  cases changed <;> simp [changedMember]

variable {read : Value → Bytes → Except Bytes α} {f : α → Value} {ms : Members} {name : String}
  {o : Option α}

lemma readOptional_canon (hfind : find (str name) ms = o.map f)
    (hread : ∀ a ∈ o, read (canon (f a)) (str "$." ++ str name) = .ok a) :
    readOptional read (canonMembers ms) name = .ok o := by
  unfold readOptional
  rw [find_canonMembers, hfind]
  cases o with
  | none => rfl
  | some a =>
    simp only [Option.map_some, hread a rfl, map_ok]

/-- Of a part that has not changed, nothing is read. -/
def told {α : Type} (changed : Bool) (o : Option α) : Option α := if changed then o else none

lemma readChanged_canon {changed : Bool}
    (hfind : find (str name) ms = if changed then some (nullable f o) else none)
    (hread : readNullable read (canon (nullable f o)) (str "$." ++ str name) = .ok o) :
    readChanged read (canonMembers ms) name = .ok (changed, told changed o) := by
  have hvalue : readOptional (readNullable read) (canonMembers ms) name =
      .ok (if changed then some o else none) := by
    unfold readOptional
    rw [find_canonMembers, hfind]
    cases changed with
    | false => rfl
    | true => simp only [if_true, Option.map_some, hread, map_ok]
  refine then_ok hvalue ?_
  cases changed <;> rfl

end Members

lemma readList_canon {α : Type} {read : Value → Bytes → Except Bytes α} {f : α → Value} {as : List α}
    (path : Bytes) (hread : ∀ a ∈ as, ∀ path, read (canon (f a)) path = .ok a) :
    readList read (canon (.arr (as.map f))) path = .ok as :=
  then_ok rfl (readItems_canon path hread 0)

/-! ### Deltas -/

/-- The names of a delta that has everything, in their order. -/
def deltaNames : List Bytes :=
  [str "application", str "application_fields", str "command_pending", str "draft", str "from_revision",
    str "last_command", str "lightweight_mode", str "profile_editor", str "profiles", str "revision",
    str "rules_editor", str "selection", str "storage"]

lemma sublist_deltaNames (d : StateDelta) :
    ((members (stateDeltaJson d)).map Prod.fst).Sublist deltaNames := by
  simp only [stateDeltaJson, members, List.map_append]
  exact (((((((((((sublist_optionalMember _ _ _).append (sublist_optionalMember _ _ _)).append
    (sublist_optionalMember _ _ _)).append (sublist_optionalMember _ _ _)).append (.refl _)).append
    (sublist_changedMember _ _ _ _)).append (sublist_optionalMember _ _ _)).append
    (sublist_changedMember _ _ _ _)).append (sublist_optionalMember _ _ _)).append (.refl _)).append
    (sublist_changedMember _ _ _ _)).append (sublist_optionalMember _ _ _) |>.append
    (sublist_optionalMember _ _ _)

lemma document_optionalMember {α : Type} {f : α → Value} (h : ∀ a, Document (f a)) (name : String)
    (o : Option α) : ∀ m ∈ optionalMember name f o, Document m.2 := by
  cases o with
  | none => simp [optionalMember]
  | some a => simpa [optionalMember] using h a

lemma document_changedMember {α : Type} {f : α → Value} (h : ∀ a, Document (f a)) (name : String)
    (changed : Bool) (o : Option α) : ∀ m ∈ changedMember name f changed o, Document m.2 := by
  cases changed with
  | false => simp [changedMember]
  | true => simpa [changedMember] using document_nullable h o

lemma document_stateDeltaJson (d : StateDelta) : Document (stateDeltaJson d) := by
  refine document_obj _ rfl ((by decide : deltaNames.Pairwise (· < ·)).sublist (sublist_deltaNames d)) ?_
  simp only [List.forall_mem_append, and_assoc]
  exact ⟨document_optionalMember document_applicationJson _ _,
    document_optionalMember (document_arr document_fieldStateJson) _ _,
    document_optionalMember document_bool _ _, document_optionalMember document_draftJson _ _,
    by simp [document_natJson], document_changedMember document_commandStatusJson _ _ _,
    document_optionalMember document_bool _ _, document_changedMember document_profileEditorJson _ _ _,
    document_optionalMember (document_arr document_profileSummaryJson) _ _, by simp [document_natJson],
    document_changedMember document_rulesEditorJson _ _ _,
    document_optionalMember document_selectionJson _ _,
    document_optionalMember document_storageJson _ _⟩

/-- Where the members of a delta are. -/
structure Found (d : StateDelta) (ms : Members) : Prop where
  fromRevision : find (str "from_revision") ms = some (natJson d.fromRevision)
  revision : find (str "revision") ms = some (natJson d.revision)
  application : find (str "application") ms = d.application.map applicationJson
  profiles : find (str "profiles") ms = d.profiles.map (.arr ∘ List.map profileSummaryJson)
  applicationFields : find (str "application_fields") ms =
    d.applicationFields.map (.arr ∘ List.map fieldStateJson)
  selection : find (str "selection") ms = d.selection.map selectionJson
  profileEditor : find (str "profile_editor") ms =
    if d.profileEditorChanged then some (nullable profileEditorJson d.profileEditor) else none
  rulesEditor : find (str "rules_editor") ms =
    if d.rulesEditorChanged then some (nullable rulesEditorJson d.rulesEditor) else none
  draft : find (str "draft") ms = d.draft.map draftJson
  lastCommand : find (str "last_command") ms =
    if d.lastCommandChanged then some (nullable commandStatusJson d.lastCommand) else none
  storage : find (str "storage") ms = d.storage.map storageJson
  lightweightMode : find (str "lightweight_mode") ms = d.lightweightMode.map .bool
  commandPending : find (str "command_pending") ms = d.commandPending.map .bool

lemma found_stateDelta (d : StateDelta) : Found d (members (stateDeltaJson d)) := by
  constructor <;> simp only [stateDeltaJson, members, find_append, find_optionalMember, find_changedMember,
    find_singleton]
  case fromRevision => rfl
  case revision => rfl
  case application => cases d.application <;> rfl
  case profiles => cases d.profiles <;> rfl
  case applicationFields => cases d.applicationFields <;> rfl
  case selection => cases d.selection <;> rfl
  case profileEditor => cases d.profileEditorChanged <;> rfl
  case rulesEditor => cases d.rulesEditorChanged <;> rfl
  case draft => cases d.draft <;> rfl
  case lastCommand => cases d.lastCommandChanged <;> rfl
  case storage => cases d.storage <;> rfl
  case lightweightMode => cases d.lightweightMode <;> rfl
  case commandPending => cases d.commandPending <;> rfl

/-- The delta, without what it says of parts that have not changed. -/
def tidyDelta (d : StateDelta) : StateDelta :=
  { d with profileEditor := told d.profileEditorChanged d.profileEditor
           rulesEditor := told d.rulesEditorChanged d.rulesEditor
           lastCommand := told d.lastCommandChanged d.lastCommand }

lemma ite_told {α : Type} (changed : Bool) (o previous : Option α) :
    (if changed then told changed o else previous) = if changed then o else previous := by
  cases changed <;> rfl

/-- Nothing is lost with what such a delta says. -/
lemma apply_tidyDelta (d : StateDelta) (s : Snapshot) : (tidyDelta d).apply s = d.apply s := by
  have hprofile := ite_told d.profileEditorChanged d.profileEditor s.profileEditor
  have hrules := ite_told d.rulesEditorChanged d.rulesEditor s.rulesEditor
  have hcommand := ite_told d.lastCommandChanged d.lastCommand s.lastCommand
  simp only [StateDelta.apply, Snapshot.mk.injEq]
  exact ⟨rfl, rfl, rfl, rfl, rfl, hprofile, hrules, rfl, hcommand, rfl, rfl, rfl⟩

/-- A delta that is made of two snapshots says nothing of parts that have not changed. -/
lemma tidyDelta_build (s t : Snapshot) : tidyDelta (buildGuiStateDelta s t) = buildGuiStateDelta s t := by
  simp only [tidyDelta, told, buildGuiStateDelta, changedPart, StateDelta.mk.injEq, true_and, and_true,
    decide_eq_true_eq]
  refine ⟨?_, ?_, ?_⟩ <;> split_ifs <;> rfl

/-- The selection of a delta, if it has one, is a whole one. -/
def PairedDelta (d : StateDelta) : Prop := ∀ s ∈ d.selection, s.Paired

instance (d : StateDelta) : Decidable (PairedDelta d) :=
  match h : d.selection with
  | none => isTrue (by simp [PairedDelta, h])
  | some s => decidable_of_iff s.Paired (by simp [PairedDelta, h])

lemma readOptional_selection {d : StateDelta} {ms : Members} (h : d.Sized) (hfound : Found d ms) :
    readOptional parseSelection (canonMembers ms) "selection" =
      if PairedDelta d then .ok d.selection else .error unpaired := by
  unfold readOptional
  rw [find_canonMembers, hfound.selection]
  cases hd : d.selection with
  | none => simp [PairedDelta, hd]
  | some s =>
    have hread := parseSelection_canon (h.selection s hd) (str "$." ++ str "selection")
    by_cases hpaired : s.Paired
    · simp [PairedDelta, hd, hpaired, hread]
    · simp only [PairedDelta, hd, Option.mem_some_iff, forall_eq', hpaired, if_false, Option.map_some, hread]
      rfl

lemma member_canonMembers {ms : Members} {name : String} {v : Value} (h : find (str name) ms = some v) :
    member (canonMembers ms) name = canon v := by
  rw [member, find_canonMembers, h]
  rfl

lemma checkKeys_stateDelta (d : StateDelta) (path : Bytes) :
    checkKeys (canon (stateDeltaJson d)) stateDeltaKeys [str "from_revision", str "revision"] path =
      .ok (canonMembers (members (stateDeltaJson d))) := by
  have hfound := found_stateDelta d
  have hnames : ((canonMembers (members (stateDeltaJson d))).map Prod.fst) =
      (members (stateDeltaJson d)).map Prod.fst := by
    simp [canonMembers_eq]
  change checkKeys (.obj (canonMembers (members (stateDeltaJson d)))) _ _ _ = _
  refine checkObjectKeys_ok ?_ ?_
  · rw [hnames, List.all_eq_true]
    intro name hname
    have hall : ∀ name ∈ deltaNames, stateDeltaKeys.contains name = true := by decide
    exact hall name ((sublist_deltaNames d).subset hname)
  · have hmem {name : Bytes} {v : Value} (h : find name (members (stateDeltaJson d)) = some v) :
        ((members (stateDeltaJson d)).map Prod.fst).contains name = true :=
      List.contains_iff_mem.mpr (List.mem_map_of_mem (mem_of_find h))
    rw [hnames]
    simp only [List.all_cons, hmem hfound.fromRevision, hmem hfound.revision, List.all_nil, Bool.and_self]

lemma parseStateDeltaJson_canon {d : StateDelta} (h : d.Sized) (hsent : ¬ (d.revision ≤ d.fromRevision ∨ d.empty)) :
    parseStateDeltaJson (canon (stateDeltaJson d)) (str "$") =
      if PairedDelta d then .ok (tidyDelta d) else .error unpaired := by
  have hfound := found_stateDelta d
  have hfrom := member_canonMembers hfound.fromRevision
  have hrevision := member_canonMembers hfound.revision
  have hselection := readOptional_selection h hfound
  refine then_ok (checkKeys_stateDelta d _) <|
    then_ok (by rw [hfrom]; exact readNat_uint h.fromRevision _) <|
    then_ok (by rw [hrevision]; exact readNat_uint h.revision _) <|
    then_ok (readOptional_canon hfound.application fun a ha => parseApplication_canon (h.application a ha) _) <|
    then_ok (readOptional_canon hfound.profiles fun ps hps => readList_canon _
      fun p hp => parseProfileSummary_canon (h.profiles ps hps p hp)) <|
    then_ok (readOptional_canon hfound.applicationFields fun fs _ => readList_canon _
      fun f _ => parseFieldState_canon f) ?_
  split_ifs at hselection ⊢ with hpaired
  · refine then_ok hselection <|
      then_ok (readChanged_canon hfound.profileEditor (readNullable_profileEditor h.profileEditor _)) <|
      then_ok (readChanged_canon hfound.rulesEditor (readNullable_rulesEditor h.rulesEditor _)) <|
      then_ok (readOptional_canon hfound.draft fun s hs => parseDraft_canon (h.draft s hs) _) <|
      then_ok (readChanged_canon hfound.lastCommand (readNullable_commandStatus h.lastCommand _)) <|
      then_ok (readOptional_canon hfound.storage fun s _ => parseStorage_canon s _) <|
      then_ok (readOptional_canon hfound.lightweightMode fun _ _ => rfl) <|
      then_ok (readOptional_canon hfound.commandPending fun _ _ => rfl) ?_
    exact if_neg hsent
  · exact then_error hselection

end CcsTrans.GuiIpc
