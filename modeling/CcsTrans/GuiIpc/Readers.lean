import CcsTrans.Config.ApplicationConfig
import CcsTrans.GuiIpc.Integers
import CcsTrans.GuiIpc.Utf8
import CcsTrans.Host.Maintenance
import CcsTrans.Json.Texts

/-!
How messages are read.

A payload is one JSON object. Its reader looks at the names of its members first, and then at one
member after another; the first one that is not as expected names itself in the error. What a
reader gives back for a value that was written is proved beside it.
-/

namespace CcsTrans.GuiIpc

open CcsTrans.Text CcsTrans.Json CcsTrans.Fallible
open CcsTrans.Gui (MessageKind ResultCode ErrorCode FieldValue)
open CcsTrans.Host (MaintenanceCommand maintenanceCommandName)

/-! ### Names -/

/-- `parse_enum`: the first of the values that has the name. -/
def parseEnum {α : Type} (name : α → Bytes) (values : List α) (value : Bytes) : Option α :=
  values.find? fun candidate => value == name candidate

def kMessageKinds : List MessageKind :=
  [.hello, .helloResult, .activate, .shutdown, .ping, .pong, .snapshotRequest, .snapshot, .stateChanged,
    .command, .commandStatus, .maintenanceRequest, .maintenanceResult]

def kResultCodes : List ResultCode :=
  [.accepted, .succeeded, .rejected, .failed, .cancelled, .savedPendingRuntimeApply]

def kErrorCodes : List ErrorCode :=
  [.none, .malformedFrame, .malformedMessage, .unsupportedProtocol, .versionMismatch, .sourceMismatch,
    .authenticationFailed, .sessionMismatch, .sequenceRejected, .revisionStale, .busy, .invalidArgument,
    .profileNotFound, .profileAlreadyExists, .validationFailed, .routeCollision, .repositoryStale,
    .draftStale, .persistenceFailed, .runtimeApplyFailed, .serviceUnavailable,
    .unsavedChangesDecisionRequired, .migrationRequired, .replacementConfirmationRequired,
    .ipcBackpressure, .disconnected, .internal]

def kGuiCommands : List GuiCommand :=
  [.refresh, .startService, .stopService, .reloadService, .quitApplication, .applyDraft, .discardDraft,
    .reloadDraft, .selectProfile, .createProfile, .removeProfile, .saveProfile, .setProfileEnabled,
    .moveProfile, .replaceRulesText, .formatRulesText, .updateApplicationFields, .setLightweightMode,
    .storageStatus, .migrateStorage, .addRule, .removeRule, .setRuleEnabled, .moveRule,
    .updateRuleOptions, .previewRules]

def kUnsavedDecisions : List UnsavedDecision := [.apply, .discard, .cancel]

def kMaintenanceCommands : List MaintenanceCommand := [.queryVersion, .requestShutdown, .waitForRelease]

def parseMessageKind : Bytes → Option MessageKind := parseEnum messageKindName kMessageKinds
def parseResultCode : Bytes → Option ResultCode := parseEnum resultCodeName kResultCodes
def parseErrorCode : Bytes → Option ErrorCode := parseEnum errorCodeName kErrorCodes
def parseGuiCommand : Bytes → Option GuiCommand := parseEnum guiCommandName kGuiCommands
def parseUnsavedDecision : Bytes → Option UnsavedDecision := parseEnum unsavedDecisionName kUnsavedDecisions
def parseMaintenanceCommand : Bytes → Option MaintenanceCommand :=
  parseEnum maintenanceCommandName kMaintenanceCommands

/-- A name stands for one value when no two values of the table have it. -/
lemma parseEnum_iff {α : Type} {name : α → Bytes} {values : List α} (hall : ∀ v, v ∈ values)
    (hnames : (values.map name).Nodup) {s : Bytes} {v : α} :
    parseEnum name values s = some v ↔ s = name v := by
  constructor
  · intro h
    simpa using List.find?_some h
  · rintro rfl
    have hsome : (parseEnum name values (name v)).isSome := by
      rw [parseEnum, List.find?_isSome]
      exact ⟨v, hall v, by simp⟩
    obtain ⟨w, hw⟩ := Option.isSome_iff_exists.mp hsome
    have hname : name v = name w := by simpa using List.find?_some hw
    rw [hw, List.inj_on_of_nodup_map hnames (hall v) (hall w) hname]

lemma parseMessageKind_iff {s : Bytes} {v : MessageKind} :
    parseMessageKind s = some v ↔ s = messageKindName v :=
  parseEnum_iff (fun v => by cases v <;> decide) (by decide)

lemma parseResultCode_iff {s : Bytes} {v : ResultCode} :
    parseResultCode s = some v ↔ s = resultCodeName v :=
  parseEnum_iff (fun v => by cases v <;> decide) (by decide)

lemma parseErrorCode_iff {s : Bytes} {v : ErrorCode} :
    parseErrorCode s = some v ↔ s = errorCodeName v :=
  parseEnum_iff (fun v => by cases v <;> decide) (by decide +kernel)

lemma parseGuiCommand_iff {s : Bytes} {v : GuiCommand} :
    parseGuiCommand s = some v ↔ s = guiCommandName v :=
  parseEnum_iff (fun v => by cases v <;> decide) (by decide +kernel)

lemma parseUnsavedDecision_iff {s : Bytes} {v : UnsavedDecision} :
    parseUnsavedDecision s = some v ↔ s = unsavedDecisionName v :=
  parseEnum_iff (fun v => by cases v <;> decide) (by decide)

lemma parseMaintenanceCommand_iff {s : Bytes} {v : MaintenanceCommand} :
    parseMaintenanceCommand s = some v ↔ s = maintenanceCommandName v :=
  parseEnum_iff (fun v => by cases v <;> decide) (by decide)

/-! ### Readers of one value -/

/-- `check_keys`. -/
def checkKeys (object : Value) (allowed required : List Bytes) (path : Bytes) : Except Bytes Members :=
  Config.checkObjectKeys object path allowed required

/-- `read_string`. -/
def readString (value : Value) (path : Bytes) : Except Bytes Bytes :=
  match value with
  | .str s => .ok s
  | _ => .error (path ++ str " must be a JSON string")

/-- `read_bool`. -/
def readBool (value : Value) (path : Bytes) : Except Bytes Bool :=
  match value with
  | .bool b => .ok b
  | _ => .error (path ++ str " must be a JSON boolean")

namespace IntegerType

def uint16 : IntegerType := ⟨false, 16, by decide, by decide⟩
def uint32 : IntegerType := { int32 with signed := false }
def uint64 : IntegerType := { int64 with signed := false }

end IntegerType

def readUInt16 (value : Value) (path : Bytes) : Except Bytes UInt16 :=
  (fun n => n.toNat.toUInt16) <$> readInteger .uint16 value path

def readUInt32 (value : Value) (path : Bytes) : Except Bytes UInt32 :=
  (fun n => n.toNat.toUInt32) <$> readInteger .uint32 value path

def readUInt64 (value : Value) (path : Bytes) : Except Bytes UInt64 :=
  (fun n => n.toNat.toUInt64) <$> readInteger .uint64 value path

def readInt64 (value : Value) (path : Bytes) : Except Bytes Int64 :=
  Int64.ofInt <$> readInteger .int64 value path

/-- An integer without a sign, where the states have it as a number. -/
def readNat (value : Value) (path : Bytes) : Except Bytes ℕ := Int.toNat <$> readInteger .uint64 value path

/-- A name of a table. -/
def readName {α : Type} (parse : Bytes → Option α) (unknown : Bytes) (value : Value) (path : Bytes) :
    Except Bytes α := do
  let name ← readString value path
  match parse name with
  | some v => .ok v
  | none => .error unknown

/-- The items of an array. -/
def readArray (value : Value) (error : Bytes) : Except Bytes (List Value) :=
  match value with
  | .arr xs => .ok xs
  | _ => .error error

/-- A value that may be `null`. -/
def readNullable {α : Type} (read : Value → Bytes → Except Bytes α) (value : Value) (path : Bytes) :
    Except Bytes (Option α) :=
  match value with
  | .null => .ok none
  | value => some <$> read value path

/-- The items from the place `index` on. -/
def readItems {α : Type} (read : Value → Bytes → Except Bytes α) (path : Bytes) :
    ℕ → List Value → Except Bytes (List α)
  | _, [] => .ok []
  | index, x :: xs => do
    let item ← read x (path ++ str "[" ++ decimal index ++ str "]")
    let items ← readItems read path (index + 1) xs
    return item :: items

/-- `parse_field_value`. -/
def parseFieldValue (value : Value) (path : Bytes) : Except Bytes FieldValue :=
  match value with
  | .str s => .ok (.text s)
  | .bool b => .ok (.boolean b)
  | value =>
    if isNumberUnsigned value || (isNumberInteger value && decide (0 ≤ (getInt64 value).toInt)) then
      .ok (.number (getUInt64 value))
    else .error (path ++ str " must be a string, unsigned integer, or boolean")

section Payloads

variable [Library]

/-- `parse_payload`. -/
def parsePayload {α : Type} (parse : Value → Bytes → Except Bytes α) (content : Bytes) :
    Except Bytes α := do
  let root ← parseJson content
  parse root (str "$")

end Payloads

/-! ### What is written is read -/

/-- One step of a reader. -/
lemma then_ok {ε α β : Type} {x : Except ε α} {a : α} {f : α → Except ε β} {r : Except ε β}
    (h : x = .ok a) (hf : f a = r) : (x >>= f) = r := by
  rw [h]
  exact hf

section Integers

variable {t : IntegerType}

lemma readInteger_uint (hsigned : t.signed = false) {n : UInt64} (h : t.Holds n.toNat) (path : Bytes) :
    readInteger t (.uint n) path = .ok n.toNat :=
  (readInteger_unsigned hsigned (.uint n) path _).mpr ⟨h, rfl⟩

/-- A signed integer that is not negative is read without a sign. -/
lemma canon_int (n : Int64) : isNumberInteger (canon (.int n)) = true ∧ getInt64 (canon (.int n)) = n := by
  rw [canon]
  split_ifs with hn
  · refine ⟨rfl, ?_⟩
    rw [getInt64, ← Int64.toInt_inj, toInt_toInt64]
    have hlt := n.toInt_lt
    have hnat : (n.toInt.toNat.toUInt64).toNat = n.toInt.toNat := by
      simp only [Nat.toUInt64_eq, UInt64.toNat_ofNat']
      omega
    rw [hnat, if_pos (by omega)]
    omega
  · exact ⟨rfl, rfl⟩

lemma readInteger_int (hsigned : t.signed = true) {n : Int64} (h : t.Holds n.toInt) (path : Bytes) :
    readInteger t (canon (.int n)) path = .ok n.toInt := by
  obtain ⟨hinteger, hvalue⟩ := canon_int n
  exact (readInteger_signed hsigned _ hinteger path _).mpr (by rw [hvalue]; exact ⟨h, rfl⟩)

lemma readUInt16_uint (n : UInt16) (path : Bytes) : readUInt16 (.uint n.toUInt64) path = .ok n := by
  have hlt := n.toNat_lt
  have hread := readInteger_uint (t := .uint16) rfl (n := n.toUInt64)
    ⟨Int.natCast_nonneg _, by rw [UInt16.toNat_toUInt64, IntegerType.max, IntegerType.uint16]; simp; omega⟩ path
  rw [readUInt16, hread, map_ok, Int.toNat_natCast, UInt16.toNat_toUInt64]
  simp

lemma readUInt32_uint (n : UInt32) (path : Bytes) : readUInt32 (.uint n.toUInt64) path = .ok n := by
  have hlt := n.toNat_lt
  have hread := readInteger_uint (t := .uint32) rfl (n := n.toUInt64)
    ⟨Int.natCast_nonneg _, by rw [UInt32.toNat_toUInt64, IntegerType.max, IntegerType.uint32, IntegerType.int32]; simp; omega⟩ path
  rw [readUInt32, hread, map_ok, Int.toNat_natCast, UInt32.toNat_toUInt64]
  simp

lemma holds_uint64 (n : UInt64) : IntegerType.uint64.Holds n.toNat := by
  have hlt := n.toNat_lt
  exact ⟨Int.natCast_nonneg _, by rw [IntegerType.max, IntegerType.uint64, IntegerType.int64]; simp; omega⟩

lemma readUInt64_uint (n : UInt64) (path : Bytes) : readUInt64 (.uint n) path = .ok n := by
  rw [readUInt64, readInteger_uint rfl (holds_uint64 n), map_ok, Int.toNat_natCast]
  simp

lemma readNat_uint {n : ℕ} (h : n < 2 ^ 64) (path : Bytes) : readNat (.uint n.toUInt64) path = .ok n := by
  rw [readNat, readInteger_uint rfl (holds_uint64 _), map_ok, Int.toNat_natCast]
  simp only [Nat.toUInt64_eq, UInt64.toNat_ofNat', Nat.mod_eq_of_lt h]

lemma holds_int64 (n : Int64) : IntegerType.int64.Holds n.toInt := ⟨n.le_toInt, by
  have hlt := n.toInt_lt
  rw [IntegerType.max, IntegerType.int64]
  simp
  omega⟩

lemma readInt64_int (n : Int64) (path : Bytes) : readInt64 (canon (.int n)) path = .ok n := by
  rw [readInt64, readInteger_int rfl (holds_int64 n), map_ok, Int64.ofInt_toInt]

lemma toInt_ofInt {n : ℤ} (h : IntegerType.int64.Holds n) : (Int64.ofInt n).toInt = n :=
  Int64.toInt_ofInt_of_le h.1 (by
    have hmax := h.2
    rw [IntegerType.max, IntegerType.int64] at hmax
    simp at hmax
    omega)

lemma readInteger_ofInt (hsigned : t.signed = true) {n : ℤ} (h : t.Holds n)
    (h64 : IntegerType.int64.Holds n) (path : Bytes) :
    readInteger t (canon (.int (Int64.ofInt n))) path = .ok n := by
  have hread := readInteger_int hsigned (n := Int64.ofInt n) (by rwa [toInt_ofInt h64]) path
  rwa [toInt_ofInt h64] at hread

end Integers

lemma readName_name {α : Type} {parse : Bytes → Option α} {name : α → Bytes}
    (hparse : ∀ {s v}, parse s = some v ↔ s = name v) (unknown : Bytes) (v : α) (path : Bytes) :
    readName parse unknown (.str (name v)) path = .ok v := by
  simp [readName, readString, hparse.mpr rfl]

/-- A value that may be missing is read as it was, when nothing is written as `null`. -/
lemma readNullable_canon {α : Type} {read : Value → Bytes → Except Bytes α} {f : α → Value}
    {o : Option α} (path : Bytes) (hread : ∀ a ∈ o, read (canon (f a)) path = .ok a)
    (hnull : ∀ a, canon (f a) ≠ .null) : readNullable read (canon (nullable f o)) path = .ok o := by
  cases o with
  | none => rfl
  | some a =>
    have hne := hnull a
    have hok := hread a rfl
    unfold readNullable
    rw [show nullable f (some a) = f a from rfl]
    split
    · next heq => exact absurd heq hne
    · rw [hok, map_ok]

lemma canon_int_ne_null (n : Int64) : canon (.int n) ≠ .null := by
  rw [canon]
  split_ifs <;> simp

lemma readItems_canon {α : Type} {read : Value → Bytes → Except Bytes α} {f : α → Value} {as : List α}
    (path : Bytes) (hread : ∀ a ∈ as, ∀ path, read (canon (f a)) path = .ok a) (index : ℕ) :
    readItems read path index (canonItems (as.map f)) = .ok as := by
  induction as generalizing index with
  | nil => rfl
  | cons a as ih =>
    obtain ⟨ha, has⟩ := List.forall_mem_cons.mp hread
    exact then_ok (ha _) (then_ok (ih has (index + 1)) rfl)

lemma parseFieldValue_canon (v : FieldValue) (path : Bytes) :
    parseFieldValue (canon (fieldValueJson v)) path = .ok v := by
  cases v <;> rfl

lemma fieldValueJson_ne_null (v : FieldValue) : canon (fieldValueJson v) ≠ .null := by
  cases v <;> simp [fieldValueJson, canon]

/-! ### Texts -/

/-- The last byte of a character, and what is behind it. -/
lemma utf8Run_last {low high : UInt8} {t : Bytes} (h : utf8Run (.need low high 0) t = some .start) :
    ∃ c r, t = c :: r ∧ (low ≤ c ∧ c ≤ high) ∧ utf8Run .start r = some .start := by
  cases t with
  | nil => simp [utf8Run] at h
  | cons c r =>
    obtain ⟨q, hstep, hrun⟩ := Option.bind_eq_some_iff.mp h
    simp only [utf8Step, Option.ite_none_right_eq_some, Option.some.injEq] at hstep
    exact ⟨c, r, rfl, hstep.1, hstep.2 ▸ hrun⟩

lemma utf8Run_more {low high : UInt8} {n : ℕ} {t : Bytes}
    (h : utf8Run (.need low high (n + 1)) t = some .start) :
    ∃ c r, t = c :: r ∧ (low ≤ c ∧ c ≤ high) ∧ utf8Run (.need 0x80 0xBF n) r = some .start := by
  cases t with
  | nil => simp [utf8Run] at h
  | cons c r =>
    obtain ⟨q, hstep, hrun⟩ := Option.bind_eq_some_iff.mp h
    simp only [utf8Step, Option.ite_none_right_eq_some, Option.some.injEq] at hstep
    exact ⟨c, r, rfl, hstep.1, hstep.2 ▸ hrun⟩

lemma continuation_of_le {b low high : UInt8} (hlow : 0x80 ≤ low.toNat) (hhigh : high.toNat ≤ 0xBF)
    (h : low ≤ b ∧ b ≤ high) : continuation b = true := by
  rw [le_iff, le_iff] at h
  exact continuation_iff.mpr ⟨hlow.trans h.1, h.2.trans hhigh⟩

/-- A text that the library takes for UTF-8 starts with a character. -/
lemma encoded_of_utf8Run {b : UInt8} {t : Bytes} (h : utf8Run .start (b :: t) = some .start) :
    ∃ p r, Encoded p ∧ b :: t = p ++ r ∧ utf8Run .start r = some .start := by
  obtain ⟨q, hstep, hrun⟩ := Option.bind_eq_some_iff.mp h
  simp only [utf8Step] at hstep
  -- the first byte says how many more there are, and between which bounds the second one lies
  split_ifs at hstep with h1 h2 h3 h4 h5 h6 h7 h8 <;> cases hstep
  · exact ⟨[b], t, .one (le_iff.mp h1), rfl, hrun⟩
  · obtain ⟨c, r, rfl, hc, hr⟩ := utf8Run_last hrun
    exact ⟨[b, c], r, .two ⟨le_iff.mp h2.1, le_iff.mp h2.2⟩
      (continuation_of_le (by decide) (by decide) hc), rfl, hr⟩
  · obtain ⟨c, r, rfl, hc, hr⟩ := utf8Run_more hrun
    obtain ⟨d, r, rfl, hd, hr⟩ := utf8Run_last hr
    subst h3
    exact ⟨[_, c, d], r, .three (by decide) (continuation_of_le (by decide) (by decide) hc)
      (continuation_of_le (by decide) (by decide) hd) (fun _ => le_iff.mp hc.1)
      (fun he => absurd he (by decide)), rfl, hr⟩
  · obtain ⟨c, r, rfl, hc, hr⟩ := utf8Run_more hrun
    obtain ⟨d, r, rfl, hd, hr⟩ := utf8Run_last hr
    subst h4
    exact ⟨[_, c, d], r, .three (by decide) (continuation_of_le (by decide) (by decide) hc)
      (continuation_of_le (by decide) (by decide) hd)
      (fun he => absurd he (by decide)) (fun _ => Nat.lt_succ_of_le (le_iff.mp hc.2)), rfl, hr⟩
  · obtain ⟨c, r, rfl, hc, hr⟩ := utf8Run_more hrun
    obtain ⟨d, r, rfl, hd, hr⟩ := utf8Run_last hr
    have hlow := le_iff.mp h5.1
    have hhigh := le_iff.mp h5.2
    exact ⟨[b, c, d], r, .three ⟨(by decide : 0xE0 ≤ 0xE1).trans hlow, hhigh⟩
      (continuation_of_le (by decide) (by decide) hc) (continuation_of_le (by decide) (by decide) hd)
      (fun he => absurd (UInt8.toNat_inj.mp he) h3) (fun he => absurd (UInt8.toNat_inj.mp he) h4), rfl, hr⟩
  · obtain ⟨c, r, rfl, hc, hr⟩ := utf8Run_more hrun
    obtain ⟨d, r, rfl, hd, hr⟩ := utf8Run_more hr
    obtain ⟨e, r, rfl, he, hr⟩ := utf8Run_last hr
    subst h6
    exact ⟨[_, c, d, e], r, .four (by decide) (continuation_of_le (by decide) (by decide) hc)
      (continuation_of_le (by decide) (by decide) hd) (continuation_of_le (by decide) (by decide) he)
      (fun _ => le_iff.mp hc.1) (fun he => absurd he (by decide)), rfl, hr⟩
  · obtain ⟨c, r, rfl, hc, hr⟩ := utf8Run_more hrun
    obtain ⟨d, r, rfl, hd, hr⟩ := utf8Run_more hr
    obtain ⟨e, r, rfl, he, hr⟩ := utf8Run_last hr
    have hlow := le_iff.mp h7.1
    have hhigh := le_iff.mp h7.2
    exact ⟨[b, c, d, e], r, .four ⟨(by decide : 0xF0 ≤ 0xF1).trans hlow, hhigh.trans (by decide)⟩
      (continuation_of_le (by decide) (by decide) hc) (continuation_of_le (by decide) (by decide) hd)
      (continuation_of_le (by decide) (by decide) he) (fun he => absurd (UInt8.toNat_inj.mp he) h6)
      (fun he => absurd (he.symm.le.trans hhigh) (by decide)), rfl, hr⟩
  · obtain ⟨c, r, rfl, hc, hr⟩ := utf8Run_more hrun
    obtain ⟨d, r, rfl, hd, hr⟩ := utf8Run_more hr
    obtain ⟨e, r, rfl, he, hr⟩ := utf8Run_last hr
    subst h8
    exact ⟨[_, c, d, e], r, .four (by decide) (continuation_of_le (by decide) (by decide) hc)
      (continuation_of_le (by decide) (by decide) hd) (continuation_of_le (by decide) (by decide) he)
      (fun he => absurd he (by decide)) (fun _ => Nat.lt_succ_of_le (le_iff.mp hc.2)), rfl, hr⟩

/-- The check of a frame accepts what the library takes for UTF-8. -/
lemma validUtf8_of_json {s : Bytes} (h : Json.validUtf8 s = true) : validUtf8 s = true := by
  replace h := validUtf8_iff.mp h
  induction hn : s.length using Nat.strong_induction_on generalizing s with
  | _ n ih =>
    subst hn
    cases s with
    | nil => rw [validUtf8]
    | cons b t =>
      obtain ⟨p, r, hp, heq, hr⟩ := encoded_of_utf8Run h
      have hpos : 0 < p.length := by cases hp <;> simp
      rw [heq]
      refine validUtf8_append hp (ih r.length ?_ hr rfl)
      rw [heq, List.length_append]
      omega

section Payloads

variable [Library]

lemma dump_of_serializeWith {root : Value} {content : Bytes} (h : serializeWith root = .ok content) :
    dump root = some content ∧ content.length ≤ kMaximumFrameBytes := by
  unfold serializeWith at h
  split at h
  · cases h
  · next hdump =>
    split_ifs at h with hlength
    cases h
    exact ⟨hdump, not_lt.mp hlength⟩

/-- **A text that was written is read as what it denotes.** -/
lemma parseJson_serializeWith {root : Value} (hroot : Document root) {content : Bytes}
    (h : serializeWith root = .ok content) : parseJson content = .ok (canon root) := by
  obtain ⟨hdump, hlength⟩ := dump_of_serializeWith h
  have htree := parseTree_dumpAt (c := false) hdump ends_nil rfl
  rw [List.append_nil] at htree
  have hne : content ≠ [] := List.length_pos_iff.mp (length_pos_of_dumpAt hdump)
  have hutf8 : validUtf8 content = true := validUtf8_of_json (validUtf8_dumpAt hdump)
  have hproper := proper_canon hroot
  simp only [parseJson, hne, if_false, gt_iff_lt, not_lt.mpr hlength, hutf8, Bool.not_true,
    Bool.false_eq_true, htree, duplicateKey_proper hproper, toDom_proper hproper]

/-- A payload is read as what it was written from, when its reader inverts its writer. -/
lemma parsePayload_serializeWith {α : Type} {parse : Value → Bytes → Except Bytes α} {root : Value}
    (hroot : Document root) {r : Except Bytes α} (hparse : parse (canon root) (str "$") = r)
    {content : Bytes} (h : serializeWith root = .ok content) : parsePayload parse content = r :=
  then_ok (parseJson_serializeWith hroot h) hparse

end Payloads

end CcsTrans.GuiIpc
