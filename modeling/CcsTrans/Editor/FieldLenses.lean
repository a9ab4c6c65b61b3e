import CcsTrans.Editor.Atomic

/-!
The fields of the settings and of a profile are lenses.

The descriptors and the accessors are two lists over the same names. What a descriptor
lets through is never wider than the place where it is kept, so that what was written is
read again, and a write changes what is read at its own place in the list and nowhere else.
-/

namespace CcsTrans.Editor

open CcsTrans.Text CcsTrans.Json CcsTrans.Config CcsTrans.Storage CcsTrans.InPlace

/-! ### Numbers that fit -/

lemma toUInt16_fits {n : UInt64} (h : n ≤ 65535) : n.toUInt16.toUInt64 = n := by
  have hn : n.toNat ≤ 65535 := UInt64.le_iff_toNat_le.mp h
  refine UInt64.toNat_inj.mp ?_
  rw [UInt16.toNat_toUInt64, UInt64.toNat_toUInt16]
  omega

lemma toUInt32_fits {n : UInt64} (h : n ≤ 4294967295) : n.toUInt32.toUInt64 = n := by
  have hn : n.toNat ≤ 4294967295 := UInt64.le_iff_toNat_le.mp h
  refine UInt64.toNat_inj.mp ?_
  rw [UInt32.toNat_toUInt64, UInt64.toNat_toUInt32]
  omega

lemma toInt32_fits {n : UInt64} (h : n ≤ intMax64) :
    (Int32.ofNat n.toNat).toInt64.toUInt64 = n := by
  have hn : n.toNat ≤ 2147483647 := UInt64.le_iff_toNat_le.mp h
  have hint : (Int32.ofNat n.toNat).toInt64 = Int64.ofNat n.toNat := by
    refine Int64.toInt_inj.mp ?_
    rw [Int32.toInt_toInt64, Int32.toInt_ofNat_of_lt (by omega), Int64.toInt_ofNat_of_lt (by omega)]
  rw [hint]
  refine UInt64.toNat_inj.mp ?_
  simp

/-! ### One field -/

section Accessors

variable {σ : Type}

/-- What a write leaves. -/
def put : Accessor σ → ConfigurationFieldValue → σ → σ
  | .text _ set, .text v => set v
  | .number _ set, .number v => set v
  | .flag _ set, .flag v => set v
  | _, _ => id

/-- The field holds what its descriptor lets through, and a write hides the one before. -/
structure Holds (d : ConfigurationFieldDescriptor) (field : Accessor σ) : Prop where
  write : ∀ {v}, validateTypedValue d v = .ok () → ∀ s, field.write v s = .ok () (put field v s)
  read : ∀ {v}, validateTypedValue d v = .ok () → ∀ s, field.read (put field v s) = v
  put : ∀ {v w}, validateTypedValue d v = .ok () → validateTypedValue d w = .ok () →
    ∀ s, put field w (put field v s) = put field w s

variable {d : ConfigurationFieldDescriptor} {v : ConfigurationFieldValue}

lemma validate_number (hkind : d.inputKind = .unsignedInteger)
    (h : validateTypedValue d v = .ok ()) : ∃ n, v = .number n ∧ ¬ d.maximum.any (n > ·) := by
  unfold validateTypedValue at h
  rw [hkind] at h
  cases v with
  | number n =>
    dsimp only at h
    split_ifs at h with hmin hmax
    exact ⟨n, rfl, hmax⟩
  | text _ => cases h
  | flag _ => cases h

lemma validate_flag (hkind : d.inputKind = .boolean) (h : validateTypedValue d v = .ok ()) :
    ∃ b, v = .flag b := by
  unfold validateTypedValue at h
  rw [hkind] at h
  cases v with
  | flag b => exact ⟨b, rfl⟩
  | text _ => cases h
  | number _ => cases h

lemma validate_text (hnumber : d.inputKind ≠ .unsignedInteger) (hflag : d.inputKind ≠ .boolean)
    (h : validateTypedValue d v = .ok ()) : ∃ text, v = .text text := by
  unfold validateTypedValue at h
  split at h
  · exact absurd ‹_› hnumber
  · exact absurd ‹_› hflag
  · cases v with
    | text text => exact ⟨text, rfl⟩
    | number _ => cases h
    | flag _ => cases h

lemma holds_text {get : σ → Bytes} {set : Bytes → σ → σ} (hnumber : d.inputKind ≠ .unsignedInteger)
    (hflag : d.inputKind ≠ .boolean) (hget : ∀ v s, get (set v s) = v)
    (hset : ∀ v w s, set w (set v s) = set w s) : Holds d (.text get set) where
  write h s := by
    obtain ⟨text, rfl⟩ := validate_text hnumber hflag h
    rfl
  read h s := by
    obtain ⟨text, rfl⟩ := validate_text hnumber hflag h
    exact congrArg _ (hget text s)
  put hv hw s := by
    obtain ⟨v, rfl⟩ := validate_text hnumber hflag hv
    obtain ⟨w, rfl⟩ := validate_text hnumber hflag hw
    exact hset v w s

lemma holds_flag {get : σ → Bool} {set : Bool → σ → σ} (hkind : d.inputKind = .boolean)
    (hget : ∀ v s, get (set v s) = v) (hset : ∀ v w s, set w (set v s) = set w s) :
    Holds d (.flag get set) where
  write h s := by
    obtain ⟨b, rfl⟩ := validate_flag hkind h
    rfl
  read h s := by
    obtain ⟨b, rfl⟩ := validate_flag hkind h
    exact congrArg _ (hget b s)
  put hv hw s := by
    obtain ⟨v, rfl⟩ := validate_flag hkind hv
    obtain ⟨w, rfl⟩ := validate_flag hkind hw
    exact hset v w s

/-- A number of at most `maximum` is read again. -/
lemma holds_number {maximum : UInt64} {get : σ → UInt64} {set : UInt64 → σ → σ}
    (hkind : d.inputKind = .unsignedInteger) (hmax : d.maximum = some maximum)
    (hget : ∀ v s, v ≤ maximum → get (set v s) = v) (hset : ∀ v w s, set w (set v s) = set w s) :
    Holds d (.number get set) where
  write h s := by
    obtain ⟨n, rfl, -⟩ := validate_number hkind h
    rfl
  read h s := by
    obtain ⟨n, rfl, hn⟩ := validate_number hkind h
    have hle : n ≤ maximum := by simpa [hmax] using hn
    exact congrArg _ (hget n s hle)
  put hv hw s := by
    obtain ⟨v, rfl, -⟩ := validate_number hkind hv
    obtain ⟨w, rfl, -⟩ := validate_number hkind hw
    exact hset v w s

end Accessors

/-! ### The fields of the application -/

/-- All that can be read of the settings. -/
def applicationReads (a : ApplicationSettings) : List ConfigurationFieldValue :=
  applicationAccessors.map fun field => field.2.read a

lemma application_keys :
    applicationFieldDescriptors.map (·.key) = applicationAccessors.map Prod.fst := rfl

lemma application_keys_nodup : (applicationAccessors.map Prod.fst).Nodup := by decide +kernel

lemma application_scopes : ∀ d ∈ applicationFieldDescriptors, d.scope = .application := by
  simp [applicationFieldDescriptors, numberDescriptor, plainDescriptor]

/-- Each field holds what its descriptor lets through. -/
lemma application_holds :
    List.Forall₂ Holds applicationFieldDescriptors (applicationAccessors.map Prod.snd) := by
  have text {key name impact get set} {kind : ConfigurationFieldInputKind} {values : List Bytes}
      (hnumber : kind ≠ .unsignedInteger) (hflag : kind ≠ .boolean)
      (hget : ∀ v s, get (set v s) = v) (hset : ∀ v w s, set w (set v s) = set w s) :
      Holds (plainDescriptor key kind name impact values)
        (.text get set : Accessor ApplicationSettings) :=
    holds_text hnumber hflag hget hset
  have flag {key name impact get set} {values : List Bytes}
      (hget : ∀ v s, get (set v s) = v) (hset : ∀ v w s, set w (set v s) = set w s) :
      Holds (plainDescriptor key .boolean name impact values)
        (.flag get set : Accessor ApplicationSettings) :=
    holds_flag rfl hget hset
  have number {key minimum maximum name impact get set}
      (hget : ∀ v s, v ≤ maximum → get (set v s) = v) (hset : ∀ v w s, set w (set v s) = set w s) :
      Holds (numberDescriptor key minimum maximum name impact)
        (.number get set : Accessor ApplicationSettings) :=
    holds_number rfl rfl hget hset
  have timeout {key minimum name impact} {get : TimeoutConfig → Int32}
      {set : Int32 → TimeoutConfig → TimeoutConfig} (hget : ∀ v t, get (set v t) = v)
      (hset : ∀ v w t, set w (set v t) = set w t) :
      Holds (numberDescriptor key minimum intMax64 name impact) (timeoutAccessor get set) := by
    refine number (fun v s hv => ?_) fun v w s => ?_
    · dsimp only
      rw [hget]
      exact toInt32_fits hv
    · dsimp only
      rw [hset]
  have small {n k : UInt64} (h : n ≤ k) (hk : k ≤ 4294967295 := by decide) :
      n.toUInt32.toUInt64 = n := toUInt32_fits (UInt64.le_trans h hk)
  simp only [applicationFieldDescriptors, applicationAccessors, List.map_cons, List.map_nil]
  refine .cons (text (by simp) (by simp) (fun _ _ => rfl) fun _ _ _ => rfl) ?_
  refine .cons (number (fun _ _ hv => toUInt16_fits hv) fun _ _ _ => rfl) ?_
  refine .cons (number (fun _ _ hv => small hv) fun _ _ _ => rfl) ?_
  refine .cons (number (fun _ _ hv => small hv) fun _ _ _ => rfl) ?_
  iterate 3 refine .cons (number (fun _ _ _ => rfl) fun _ _ _ => rfl) ?_
  refine .cons (number (fun _ _ hv => small hv) fun _ _ _ => rfl) ?_
  iterate 6 refine .cons (timeout (fun _ _ => rfl) fun _ _ _ => rfl) ?_
  iterate 2 refine .cons (text (by simp) (by simp) (fun _ _ => rfl) fun _ _ _ => rfl) ?_
  iterate 2 refine .cons (flag (fun _ _ => rfl) fun _ _ _ => rfl) ?_
  iterate 3 refine .cons (number (fun _ _ _ => rfl) fun _ _ _ => rfl) ?_
  exact .cons (number (fun _ _ hv => small hv) fun _ _ _ => rfl) .nil

/-- A write changes what is read at its place. -/
lemma applicationReads_put (a : ApplicationSettings) (v : ConfigurationFieldValue) :
    ∀ p ∈ applicationAccessors.zipIdx, applicationReads (put p.1.2 v a) =
      (applicationReads a).set p.2 (p.1.2.read (put p.1.2 v a)) := by
  cases v <;>
    simp only [applicationAccessors, List.zipIdx_cons, List.zipIdx_nil, List.forall_mem_cons,
      List.not_mem_nil, false_imp_iff, implies_true, and_true] <;>
    exact ⟨rfl, rfl, rfl, rfl, rfl, rfl, rfl, rfl, rfl, rfl, rfl, rfl, rfl, rfl, rfl, rfl, rfl, rfl,
      rfl, rfl, rfl, rfl⟩

/-- The settings are what can be read of them. -/
lemma application_ext {a b : ApplicationSettings} (h : applicationReads a = applicationReads b) :
    a = b := by
  have hint {m n : Int32} : m.toInt64.toUInt64 = n.toInt64.toUInt64 ↔ m = n := by
    refine ⟨fun h => Int32.toInt_inj.mp ?_, fun h => h ▸ rfl⟩
    rw [← Int32.toInt_toInt64, ← Int32.toInt_toInt64]
    exact congrArg (fun k : UInt64 => k.toInt64.toInt) h
  obtain ⟨⟨_, _⟩, ⟨_, _, _, _, _, _⟩, ⟨_, _, _, _, _, _⟩, ⟨_, _, _, _, _, _, _, _⟩⟩ := a
  obtain ⟨⟨_, _⟩, ⟨_, _, _, _, _, _⟩, ⟨_, _, _, _, _, _⟩, ⟨_, _, _, _, _, _, _, _⟩⟩ := b
  simp only [applicationReads, applicationAccessors, timeoutAccessor, List.map_cons, List.map_nil,
    Accessor.read, List.cons.injEq, ConfigurationFieldValue.text.injEq,
    ConfigurationFieldValue.number.injEq, ConfigurationFieldValue.flag.injEq, and_true,
    UInt16.toUInt64_inj, UInt32.toUInt64_inj, hint] at h
  obtain ⟨rfl, rfl, rfl, rfl, rfl, rfl, rfl, rfl, rfl, rfl, rfl, rfl, rfl, rfl, rfl, rfl, rfl, rfl,
    rfl, rfl, rfl, rfl⟩ := h
  rfl

/-- A field of the settings has an accessor at its place, and what holds of the two lists place
by place holds of it. -/
lemma application_field {d : ConfigurationFieldDescriptor} (hd : d ∈ applicationFieldDescriptors) :
    ∃ (i : ℕ) (field : Accessor ApplicationSettings),
      applicationAccessors[i]? = some (d.key, field) ∧
      find d.key applicationAccessors = some field ∧
      ∀ {R : ConfigurationFieldDescriptor → Accessor ApplicationSettings → Prop},
        List.Forall₂ R applicationFieldDescriptors (applicationAccessors.map Prod.snd) →
        R d field := by
  obtain ⟨i, hi, rfl⟩ := List.mem_iff_getElem.mp hd
  have hlength : i < applicationAccessors.length := by
    have hsame := congrArg List.length application_keys
    rw [List.length_map, List.length_map] at hsame
    omega
  obtain ⟨⟨k, field⟩, hget⟩ : ∃ p, applicationAccessors[i]? = some p :=
    ⟨_, List.getElem?_eq_getElem hlength⟩
  obtain rfl : applicationFieldDescriptors[i].key = k := by
    have hkey : (applicationFieldDescriptors.map (·.key))[i]? =
        (applicationAccessors.map Prod.fst)[i]? := by rw [application_keys]
    rw [List.getElem?_map, List.getElem?_map, hget, List.getElem?_eq_getElem hi] at hkey
    exact Option.some.inj hkey
  refine ⟨i, field, hget, ?_, fun h => ?_⟩
  · exact find_of_mem (List.pairwise_map.mp application_keys_nodup) (List.mem_of_getElem? hget)
  · have hi' : i < (applicationAccessors.map Prod.snd).length := by simpa using hlength
    have hfield : (applicationAccessors.map Prod.snd)[i] = field := by
      refine Option.some.inj ?_
      rw [← List.getElem?_eq_getElem, List.getElem?_map, hget]
      rfl
    rw [← hfield]
    exact h.get hi hi'

section Application

variable {d : ConfigurationFieldDescriptor} {field : Accessor ApplicationSettings}
  {v : ConfigurationFieldValue} {a a' : ApplicationSettings}

lemma readApplicationField_eq (hd : d ∈ applicationFieldDescriptors)
    (hfind : find d.key applicationAccessors = some field) (a : ApplicationSettings) :
    readApplicationField a d = .ok (field.read a) := by
  simp only [readApplicationField, requireScope, application_scopes d hd, hfind, if_true]
  rfl

/-- Settings whose fields are the same are the same. -/
theorem application_eq_of_fields {a b : ApplicationSettings}
    (h : ∀ d ∈ applicationFieldDescriptors, readApplicationField a d = readApplicationField b d) :
    a = b := by
  refine application_ext (List.map_congr_left fun p hp => ?_)
  have hkey : p.1 ∈ applicationFieldDescriptors.map (·.key) := by
    rw [application_keys]
    exact List.mem_map_of_mem hp
  obtain ⟨d, hd, hdkey⟩ := List.mem_map.mp hkey
  have hfind : find d.key applicationAccessors = some p.2 := by
    rw [hdkey]
    exact find_of_mem (List.pairwise_map.mp application_keys_nodup) hp
  have hread := h d hd
  rw [readApplicationField_eq hd hfind, readApplicationField_eq hd hfind] at hread
  exact Except.ok.inj hread

lemma applyApplicationField_eq (hd : d ∈ applicationFieldDescriptors)
    (hfind : find d.key applicationAccessors = some field) (v : ConfigurationFieldValue)
    (a : ApplicationSettings) : applyApplicationField d v a =
      match validateTypedValue d v with
      | .ok _ => field.write v a
      | .error e => .error e a := by
  have hscope : demand (requireScope d .application) a = .ok () a := by
    rw [requireScope, if_pos (application_scopes d hd)]
    rfl
  unfold applyApplicationField
  rw [bind_of_ok hscope, hfind]
  cases validateTypedValue d v <;> rfl

lemma applyApplicationField_ok (hd : d ∈ applicationFieldDescriptors)
    (hfind : find d.key applicationAccessors = some field) (hfield : Holds d field) :
    applyApplicationField d v a = .ok () a' ↔
      validateTypedValue d v = .ok () ∧ a' = put field v a := by
  rw [applyApplicationField_eq hd hfind]
  cases hv : validateTypedValue d v with
  | error e => simp
  | ok u =>
    dsimp only
    rw [hfield.write hv]
    simp [eq_comm]

/-- The other fields of the settings are the same. -/
def SameApplication (d : ConfigurationFieldDescriptor) (a a' : ApplicationSettings) : Prop :=
  ∀ d' ∈ applicationFieldDescriptors, d'.key ≠ d.key →
    readApplicationField a' d' = readApplicationField a d'

lemma sameApplication_put (hd : d ∈ applicationFieldDescriptors)
    (hfind : find d.key applicationAccessors = some field) :
    SameApplication d a (put field v a) := by
  intro d' hd' hne
  obtain ⟨i, field₁, hi, hfind₁, -⟩ := application_field hd
  obtain ⟨j, field', hj, hfind', -⟩ := application_field hd'
  obtain rfl : field = field₁ := by simpa [hfind] using hfind₁
  have hij : i ≠ j := by
    rintro rfl
    rw [hi] at hj
    exact hne (congrArg Prod.fst (Option.some.inj hj)).symm
  have hmem : ((d.key, field), i) ∈ applicationAccessors.zipIdx :=
    List.mk_mem_zipIdx_iff_getElem?.mpr hi
  have hreads : (applicationReads (put field v a))[j]? = (applicationReads a)[j]? := by
    rw [applicationReads_put a v _ hmem, List.getElem?_set_ne hij]
  rw [applicationReads, applicationReads, List.getElem?_map, List.getElem?_map, hj] at hreads
  rw [readApplicationField_eq hd' hfind', readApplicationField_eq hd' hfind']
  simpa using hreads

/-- Every default passes the check of its own field. -/
lemma application_defaults :
    List.Forall₂ (fun d field => validateTypedValue d (field.read {}) = .ok ())
      applicationFieldDescriptors (applicationAccessors.map Prod.snd) := by
  simp only [applicationFieldDescriptors, applicationAccessors, List.map_cons, List.map_nil]
  iterate 22 refine .cons rfl ?_
  exact .nil

lemma resetApplicationField_eq (hfind : find d.key applicationAccessors = some field) :
    resetApplicationField d = applyApplicationField d (field.read {}) := by
  simp only [resetApplicationField, hfind]

end Application

/-! ### The fields of a profile -/

section Profile

variable {d : ConfigurationFieldDescriptor} {v w : ConfigurationFieldValue} {p p' : StoredProfile}

lemma profile_scopes : ∀ d ∈ profileFieldDescriptors, d.scope = .profile := by
  simp [profileFieldDescriptors, profileDescriptor]

/-- A field of a profile is its name, whether it is enabled, or a text. -/
lemma profile_field (hd : d ∈ profileFieldDescriptors) : d.key = str "id" ∨
    d.key = str "enabled" ∨ ∃ text, find d.key profileAccessors = some text := by
  have hall : (profileFieldDescriptors.all fun d => d.key = str "id" || d.key = str "enabled" ||
      (find d.key profileAccessors).isSome) = true := by decide
  have := List.all_eq_true.mp hall d hd
  simpa [or_assoc, Option.isSome_iff_exists] using this

/-- A text of a profile is a lens, and it is no other field. -/
lemma profile_text {k : Bytes} {get : StoredProfile → Option Bytes}
    {set : Option Bytes → StoredProfile → StoredProfile}
    (h : find k profileAccessors = some (get, set)) (v : Option Bytes) (p : StoredProfile) :
    get (set v p) = v ∧ (∀ w, set w (set v p) = set w p) ∧
      (set v p).profileId = p.profileId ∧ (set v p).enabled = p.enabled ∧
      (set v p).key = p.key ∧ (set v p).rules = p.rules ∧
      ∀ q ∈ profileAccessors, q.1 ≠ k → q.2.1 (set v p) = q.2.1 p := by
  have hmem := mem_of_find h
  simp only [profileAccessors, List.mem_cons, List.not_mem_nil, or_false, Prod.mk.injEq] at hmem
  rcases hmem with ⟨rfl, rfl, rfl⟩ | ⟨rfl, rfl, rfl⟩ | ⟨rfl, rfl, rfl⟩ | ⟨rfl, rfl, rfl⟩ |
    ⟨rfl, rfl, rfl⟩ | ⟨rfl, rfl, rfl⟩ <;>
  · refine ⟨rfl, fun _ => rfl, rfl, rfl, rfl, rfl, ?_⟩
    simp only [profileAccessors, List.forall_mem_cons, List.not_mem_nil, false_imp_iff, implies_true,
      and_true, ne_eq, not_true_eq_false]

/-- What a value does to a profile. -/
inductive ProfileWrite (d : ConfigurationFieldDescriptor) :
    ConfigurationFieldValue → (StoredProfile → StoredProfile) → Prop
  | id {s : Bytes} (hkey : d.key = str "id") (hs : isValidProfileId s = true) :
    ProfileWrite d (.text s) fun p => { p with profileId := s }
  | enabled {b : Bool} (hid : d.key ≠ str "id") (hkey : d.key = str "enabled") :
    ProfileWrite d (.flag b) fun p => { p with enabled := b }
  | text {s : Bytes} {get : StoredProfile → Option Bytes}
    {set : Option Bytes → StoredProfile → StoredProfile} (hid : d.key ≠ str "id")
    (henabled : d.key ≠ str "enabled") (hfind : find d.key profileAccessors = some (get, set)) :
    ProfileWrite d (.text s) (set (some s))

lemma applyProfileField_eq_ok (hd : d ∈ profileFieldDescriptors) :
    applyProfileField d v p = .ok () p' ↔
      validateTypedValue d v = .ok () ∧ ∃ g, ProfileWrite d v g ∧ p' = g p := by
  have hscope : requireScope d .profile = .ok () := if_pos (profile_scopes d hd)
  unfold applyProfileField
  rw [demand_bind_eq_ok]
  constructor
  · rintro ⟨_, -, h⟩
    obtain ⟨_, hv, h⟩ := demand_bind_eq_ok.mp h
    refine ⟨hv, ?_⟩
    split_ifs at h with hid henabled
    · split at h
      · obtain ⟨hs, h⟩ := rejectIf_bind_eq_ok.mp h
        cases h
        exact ⟨_, .id hid (by simpa using hs), rfl⟩
      · cases h
    · split at h
      · cases h
        exact ⟨_, .enabled hid henabled, rfl⟩
      · cases h
    · cases hfind : find d.key profileAccessors with
      | none =>
        simp only [hfind] at h
        cases h
      | some text =>
        obtain ⟨get, set⟩ := text
        cases v with
        | text s =>
          simp only [hfind] at h
          cases h
          exact ⟨_, .text hid henabled hfind, rfl⟩
        | number | flag =>
          simp only [hfind] at h
          cases h
  · rintro ⟨hv, g, hg, rfl⟩
    refine ⟨(), hscope, demand_bind_eq_ok.mpr ⟨(), hv, ?_⟩⟩
    cases hg with
    | id hkey hs =>
      rw [if_pos hkey]
      exact rejectIf_bind_eq_ok.mpr ⟨by simp [hs], rfl⟩
    | enabled hid hkey =>
      rw [if_neg hid, if_pos hkey]
      rfl
    | text hid henabled hfind =>
      rw [if_neg hid, if_neg henabled, hfind]
      rfl

/-- The other fields of the profile are the same, and so are its key and its rules. -/
structure SameProfile (d : ConfigurationFieldDescriptor) (p p' : StoredProfile) : Prop where
  fields : ∀ d' ∈ profileFieldDescriptors, d'.key ≠ d.key →
    readProfileField p' d' = readProfileField p d'
  key : p'.key = p.key
  rules : p'.rules = p.rules

lemma readProfileField_eq (hd : d ∈ profileFieldDescriptors) (p : StoredProfile) :
    readProfileField p d =
      if d.key = str "id" then .ok (some (.text p.profileId))
      else if d.key = str "enabled" then .ok (some (.flag p.enabled))
      else match find d.key profileAccessors with
        | some (get, _) => .ok ((get p).map .text)
        | none => .error (str "unsupported profile field: " ++ d.key) := by
  have hscope : requireScope d .profile = .ok () := if_pos (profile_scopes d hd)
  unfold readProfileField
  rw [hscope]
  rfl

lemma readProfileField_text {get : StoredProfile → Option Bytes}
    {set : Option Bytes → StoredProfile → StoredProfile} (hd : d ∈ profileFieldDescriptors)
    (hid : d.key ≠ str "id") (henabled : d.key ≠ str "enabled")
    (hfind : find d.key profileAccessors = some (get, set)) (p : StoredProfile) :
    readProfileField p d = .ok ((get p).map .text) := by
  rw [readProfileField_eq hd, if_neg hid, if_neg henabled, hfind]

/-- A profile whose other parts are the same has the same other fields. -/
lemma sameProfile (hid : d.key ≠ str "id" → p'.profileId = p.profileId)
    (henabled : d.key ≠ str "enabled" → p'.enabled = p.enabled)
    (htexts : ∀ q ∈ profileAccessors, q.1 ≠ d.key → q.2.1 p' = q.2.1 p)
    (hkey : p'.key = p.key) (hrules : p'.rules = p.rules) : SameProfile d p p' where
  fields d' hd' hne := by
    rw [readProfileField_eq hd', readProfileField_eq hd']
    split_ifs with h₁ h₂
    · rw [hid (h₁ ▸ hne.symm)]
    · rw [henabled (h₂ ▸ hne.symm)]
    · cases hfind : find d'.key profileAccessors with
      | none => rfl
      | some text =>
        dsimp only
        rw [htexts _ (mem_of_find hfind) hne]
  key := hkey
  rules := hrules

lemma sameProfile_text {get : StoredProfile → Option Bytes}
    {set : Option Bytes → StoredProfile → StoredProfile}
    (hfind : find d.key profileAccessors = some (get, set)) (v : Option Bytes) (p : StoredProfile) :
    SameProfile d p (set v p) := by
  obtain ⟨-, -, hid, henabled, hkey, hrules, htexts⟩ := profile_text hfind v p
  exact sameProfile (fun _ => hid) (fun _ => henabled) htexts hkey hrules

lemma ProfileWrite.same {g : StoredProfile → StoredProfile} (h : ProfileWrite d v g)
    (p : StoredProfile) : SameProfile d p (g p) := by
  cases h with
  | id hkey _ => exact sameProfile (absurd hkey) (fun _ => rfl) (by simp [profileAccessors]) rfl rfl
  | enabled _ hkey =>
    exact sameProfile (fun _ => rfl) (absurd hkey) (by simp [profileAccessors]) rfl rfl
  | text _ _ hfind => exact sameProfile_text hfind _ p

lemma ProfileWrite.read {g : StoredProfile → StoredProfile} (h : ProfileWrite d v g)
    (hd : d ∈ profileFieldDescriptors) (p : StoredProfile) :
    readProfileField (g p) d = .ok (some v) := by
  cases h with
  | id hkey _ => rw [readProfileField_eq hd, if_pos hkey]
  | enabled hid hkey => rw [readProfileField_eq hd, if_neg hid, if_pos hkey]
  | text hid henabled hfind =>
    rw [readProfileField_text hd hid henabled hfind, (profile_text hfind _ p).1]
    rfl

/-- The second write hides the first. -/
lemma ProfileWrite.put {g g' : StoredProfile → StoredProfile} (h : ProfileWrite d v g)
    (h' : ProfileWrite d w g') (p : StoredProfile) : g' (g p) = g' p := by
  cases h with
  | id hkey _ =>
    cases h' with
    | id => rfl
    | enabled hid => exact absurd hkey hid
    | text hid => exact absurd hkey hid
  | enabled hid hkey =>
    cases h' with
    | id hkey' => exact absurd hkey' hid
    | enabled => rfl
    | text _ henabled => exact absurd hkey henabled
  | text hid henabled hfind =>
    cases h' with
    | id hkey => exact absurd hkey hid
    | enabled _ hkey => exact absurd hkey henabled
    | text _ _ hfind' =>
      rw [hfind] at hfind'
      cases hfind'
      exact (profile_text hfind _ p).2.1 _

/-- What a reset leaves. -/
lemma resetProfileField_eq_ok (hd : d ∈ profileFieldDescriptors)
    (h : resetProfileField d p = .ok () p') :
    readProfileField p' d =
        .ok (if d.key = str "enabled" then some (.flag false) else none) ∧
      SameProfile d p p' := by
  unfold resetProfileField at h
  obtain ⟨_, -, h⟩ := demand_bind_eq_ok.mp h
  split_ifs at h with henabled hid
  · cases h
    have hne : d.key ≠ str "id" := by
      rw [henabled]
      decide
    refine ⟨by rw [readProfileField_eq hd, if_neg hne, if_pos henabled, if_pos henabled], ?_⟩
    exact sameProfile (fun _ => rfl) (absurd henabled) (by simp [profileAccessors]) rfl rfl
  · cases h
  · cases hfind : find d.key profileAccessors with
    | none =>
      simp only [hfind] at h
      cases h
    | some text =>
      obtain ⟨get, set⟩ := text
      simp only [hfind] at h
      obtain ⟨_, _, hget, h⟩ := bind_eq_ok.mp h
      cases hget
      split_ifs at h
      · cases h
        rw [readProfileField_text hd hid henabled hfind, (profile_text hfind _ p).1, if_neg henabled]
        exact ⟨rfl, sameProfile_text hfind none p⟩
      · cases h

/-- What can be reset. -/
lemma resetProfileField_of_set (hd : d ∈ profileFieldDescriptors) (hid : d.key ≠ str "id")
    (hset : readProfileField p d = .ok (some v)) : ∃ p', resetProfileField d p = .ok () p' := by
  have hscope : requireScope d .profile = .ok () := if_pos (profile_scopes d hd)
  unfold resetProfileField
  rw [hscope]
  by_cases henabled : d.key = str "enabled"
  · exact ⟨_, demand_bind_eq_ok.mpr ⟨(), rfl, by rw [if_pos henabled]; rfl⟩⟩
  · obtain ⟨⟨get, set⟩, hfind⟩ := ((profile_field hd).resolve_left hid).resolve_left henabled
    rw [readProfileField_text hd hid henabled hfind] at hset
    obtain ⟨s, hs, -⟩ := Option.map_eq_some_iff.mp (Except.ok.inj hset)
    refine ⟨set none p, demand_bind_eq_ok.mpr ⟨(), rfl, ?_⟩⟩
    rw [if_neg henabled, if_neg hid, hfind]
    refine bind_eq_ok.mpr ⟨p, p, rfl, ?_⟩
    rw [hs]
    rfl

end Profile

/-! ### The laws -/

/-- A value that a field of a profile takes. -/
def ProfileAccepts (d : ConfigurationFieldDescriptor) (v : ConfigurationFieldValue) : Prop :=
  validateTypedValue d v = .ok () ∧
    (d.key = str "id" → ∃ s, v = .text s ∧ isValidProfileId s = true)

lemma applyProfileField_of_accepts {d : ConfigurationFieldDescriptor} {v : ConfigurationFieldValue}
    (hd : d ∈ profileFieldDescriptors) (h : ProfileAccepts d v) : ∃ g, ProfileWrite d v g := by
  obtain ⟨hv, hid⟩ := h
  have hkind : (profileFieldDescriptors.all fun d =>
      (d.inputKind = .boolean) = (d.key = str "enabled") && d.inputKind ≠ .unsignedInteger) = true := by
    decide
  have hd' := List.all_eq_true.mp hkind d hd
  simp only [Bool.and_eq_true, decide_eq_true_eq] at hd'
  obtain ⟨hflag, hnumber⟩ := hd'
  by_cases hkey : d.key = str "id"
  · obtain ⟨s, rfl, hs⟩ := hid hkey
    exact ⟨_, .id hkey hs⟩
  · by_cases henabled : d.key = str "enabled"
    · obtain ⟨b, rfl⟩ := validate_flag (hflag.mpr henabled) hv
      exact ⟨_, .enabled hkey henabled⟩
    · obtain ⟨s, rfl⟩ := validate_text hnumber (fun h => henabled (hflag.mp h)) hv
      obtain ⟨⟨get, set⟩, hfind⟩ := ((profile_field hd).resolve_left hkey).resolve_left henabled
      exact ⟨_, .text hkey henabled hfind⟩

/-- The laws of a field of a state: `apply` succeeds on the values that it `accepts`, `read` then
shows what was written, everything but the field is the `same`, and a failure changes nothing. -/
structure FieldLaws {σ ρ : Type} (accepts : ConfigurationFieldValue → Prop)
    (shown : ConfigurationFieldValue → ρ) (apply : ConfigurationFieldValue → EStateM Bytes σ Unit)
    (read : σ → Except Bytes ρ) (same : σ → σ → Prop) : Prop where
  accepted : ∀ {v s}, (∃ s', apply v s = .ok () s') ↔ accepts v
  read_apply : ∀ {v s s'}, apply v s = .ok () s' → read s' = .ok (shown v)
  apply_same : ∀ {v s s'}, apply v s = .ok () s' → same s s'
  apply_apply : ∀ {v s s'}, apply v s = .ok () s' →
    ∀ w t, apply w s' = .ok () t ↔ apply w s = .ok () t
  apply_failed : ∀ {v s e s'}, apply v s = .error e s' → s' = s

/-- The laws of a reset, which is possible in the states with `able`. -/
structure ResetLaws {σ ρ : Type} (able : σ → Prop) (default : ρ) (reset : EStateM Bytes σ Unit)
    (read : σ → Except Bytes ρ) (same : σ → σ → Prop) : Prop where
  able : ∀ {s}, able s → ∃ s', reset s = .ok () s'
  read_reset : ∀ {s s'}, reset s = .ok () s' → read s' = .ok default
  reset_same : ∀ {s s'}, reset s = .ok () s' → same s s'
  reset_failed : ∀ {s e s'}, reset s = .error e s' → s' = s

lemma eq_of_atomic {σ : Type} {m : EStateM Bytes σ Unit} (h : Atomic id m) {s s' : σ} {e : Bytes}
    (hm : m s = .error e s') : s' = s := h s e s' hm

lemma application_laws {d : ConfigurationFieldDescriptor} (hd : d ∈ applicationFieldDescriptors) :
    FieldLaws (fun v => validateTypedValue d v = .ok ()) id (applyApplicationField d)
      (readApplicationField · d) (SameApplication d) := by
  obtain ⟨_, field, -, hfind, hlist⟩ := application_field hd
  have hholds := hlist application_holds
  refine ⟨fun {v a} => ⟨fun ⟨_, h⟩ => ((applyApplicationField_ok hd hfind hholds).mp h).1,
    fun h => ⟨_, (applyApplicationField_ok hd hfind hholds).mpr ⟨h, rfl⟩⟩⟩, ?_, ?_, ?_,
    eq_of_atomic atomic_applyApplicationField⟩
  · intro v a a' h
    obtain ⟨hv, rfl⟩ := (applyApplicationField_ok hd hfind hholds).mp h
    rw [readApplicationField_eq hd hfind, hholds.read hv]
    rfl
  · intro v a a' h
    obtain ⟨hv, rfl⟩ := (applyApplicationField_ok hd hfind hholds).mp h
    exact sameApplication_put hd hfind
  · intro v a a' h w t
    obtain ⟨hv, rfl⟩ := (applyApplicationField_ok hd hfind hholds).mp h
    rw [applyApplicationField_ok hd hfind hholds, applyApplicationField_ok hd hfind hholds]
    refine and_congr_right fun hw => ?_
    rw [hholds.put hv hw]

lemma profile_laws {d : ConfigurationFieldDescriptor} (hd : d ∈ profileFieldDescriptors) :
    FieldLaws (ProfileAccepts d) some (applyProfileField d) (readProfileField · d)
      (SameProfile d) := by
  refine ⟨fun {v p} => ⟨?_, fun h => ?_⟩, ?_, ?_, ?_, eq_of_atomic atomic_applyProfileField⟩
  · rintro ⟨p', h⟩
    obtain ⟨hv, g, hg, -⟩ := (applyProfileField_eq_ok hd).mp h
    refine ⟨hv, fun hkey => ?_⟩
    cases hg with
    | id _ hs => exact ⟨_, rfl, hs⟩
    | enabled hid => exact absurd hkey hid
    | text hid => exact absurd hkey hid
  · obtain ⟨g, hg⟩ := applyProfileField_of_accepts hd h
    exact ⟨g p, (applyProfileField_eq_ok hd).mpr ⟨h.1, g, hg, rfl⟩⟩
  · intro v p p' h
    obtain ⟨-, g, hg, rfl⟩ := (applyProfileField_eq_ok hd).mp h
    exact hg.read hd p
  · intro v p p' h
    obtain ⟨-, g, hg, rfl⟩ := (applyProfileField_eq_ok hd).mp h
    exact hg.same p
  · intro v p p' h w t
    obtain ⟨-, g, hg, rfl⟩ := (applyProfileField_eq_ok hd).mp h
    rw [applyProfileField_eq_ok hd, applyProfileField_eq_ok hd]
    refine and_congr_right fun _ => exists_congr fun g' => and_congr_right fun hg' => ?_
    rw [hg.put hg' p]

/-- **Fields are lenses.** A field of the settings takes the values that its descriptor lets
through, and a field of a profile those that are a name, too, if it is the name. What was
written is read as it was, the other fields stay, only the last write counts, and what
fails changes nothing. A reset leaves what a new value has. -/
theorem fields_are_lenses :
    (∀ d ∈ applicationFieldDescriptors,
      FieldLaws (fun v => validateTypedValue d v = .ok ()) id (applyApplicationField d)
        (readApplicationField · d) (SameApplication d) ∧
      ∃ default, readApplicationField {} d = .ok default ∧
        ResetLaws (fun _ => True) default (resetApplicationField d) (readApplicationField · d)
          (SameApplication d)) ∧
    ∀ d ∈ profileFieldDescriptors,
      FieldLaws (ProfileAccepts d) some (applyProfileField d) (readProfileField · d)
        (SameProfile d) ∧
      ResetLaws (fun p => d.key ≠ str "id" ∧ ∃ v, readProfileField p d = .ok (some v))
        (if d.key = str "enabled" then some (.flag false) else none) (resetProfileField d)
        (readProfileField · d) (SameProfile d) := by
  refine ⟨fun d hd => ⟨application_laws hd, ?_⟩, fun d hd => ⟨profile_laws hd, ?_⟩⟩
  · obtain ⟨_, field, -, hfind, hlist⟩ := application_field hd
    have laws := application_laws hd
    have hdefault := hlist application_defaults
    refine ⟨_, readApplicationField_eq hd hfind {}, ?_⟩
    rw [resetApplicationField_eq hfind]
    exact ⟨fun _ => laws.accepted.mpr hdefault, laws.read_apply, laws.apply_same,
      laws.apply_failed⟩
  · exact ⟨fun ⟨hid, v, hset⟩ => resetProfileField_of_set hd hid hset,
      fun h => (resetProfileField_eq_ok hd h).1, fun h => (resetProfileField_eq_ok hd h).2,
      eq_of_atomic atomic_resetProfileField⟩

end CcsTrans.Editor
