import CcsTrans.Coding
import CcsTrans.Storage.File

/-!
A database in a plain file: the tables one after another, behind a byte that tells whether
there are any. It meets what is asked of SQLite's files.
-/

namespace CcsTrans.Storage

open CcsTrans.Text CcsTrans.Json CcsTrans.Coding CcsTrans.Storage.Table CcsTrans.Fallible

def bytesCodec : Codec Bytes := byte.list

def profileRowCodec : Codec ProfileRow :=
  (int.prod (bytesCodec.prod (int.prod (int.prod bytesCodec.option.list)))).like
    (fun r => (r.key, r.profileId, r.position, r.enabled,
      [r.protocol, r.localRequestPath, r.localUsagePath, r.upstreamBaseUrl, r.upstreamRequestPath,
        r.upstreamUsagePath]))
    (fun (key, id, position, enabled, texts) => ⟨key, id, position, enabled, texts.getD 0 none,
      texts.getD 1 none, texts.getD 2 none, texts.getD 3 none, texts.getD 4 none, texts.getD 5 none⟩)
    fun _ => rfl

def ruleRowCodec : Codec RuleRow :=
  (int.prod (int.prod (bytesCodec.prod (int.prod (int.prod (bytesCodec.prod bytesCodec)))))).like
    (fun r => (r.key, r.profileKey, r.ruleId, r.position, r.enabled, r.type, r.optionsJson))
    (fun (key, profileKey, id, position, enabled, type, options) =>
      ⟨key, profileKey, id, position, enabled, type, options⟩)
    fun _ => rfl

def metaRowCodec : Codec MetaRow :=
  (int.prod (int.prod bytesCodec.option)).like
    (fun r => (r.schemaVersion, r.revision, r.migratedFromSha256))
    (fun (version, revision, origin) => ⟨version, revision, origin⟩) fun _ => rfl

def rowsCodec {α : Type} (c : Codec α) : Codec (Rows α) :=
  (c.list.prod nat).like (fun t => (t.rows, t.sequence)) (fun (rows, sequence) => ⟨rows, sequence⟩)
    fun _ => rfl

def tablesCodec : Codec Tables :=
  (metaRowCodec.prod ((rowsCodec profileRowCodec).prod (rowsCodec ruleRowCodec))).like
    (fun t => (t.repository, t.profiles, t.rules))
    (fun (repository, profiles, rules) => ⟨repository, profiles, rules⟩) fun _ => rfl

section Plain

variable [Library] [Sqlite]

instance (t : Tables) : Decidable t.Valid :=
  decidable_of_iff
    (t.profiles.rows.Pairwise ProfileRow.Apart ∧ (∀ r ∈ t.profiles.rows, r.Ok) ∧
      t.rules.rows.Pairwise RuleRow.Apart ∧ (∀ r ∈ t.rules.rows, r.Ok) ∧
      (∀ r ∈ t.rules.rows, ∃ p ∈ t.profiles.rows, p.key = r.profileKey) ∧
      0 ≤ t.repository.revision ∧ (∀ r ∈ t.profiles.rows, r.key ≤ t.profiles.sequence) ∧
      ∀ r ∈ t.rules.rows, r.key ≤ t.rules.sequence)
    ⟨fun ⟨h1, h2, h3, h4, h5, h6, h7, h8⟩ => ⟨h1, h2, h3, h4, h5, h6, h7, h8⟩,
      fun ⟨h1, h2, h3, h4, h5, h6, h7, h8⟩ => ⟨h1, h2, h3, h4, h5, h6, h7, h8⟩⟩

def notADatabase : StoreError := ⟨.corrupt, str "file is not a database"⟩

def plainContents : Bytes → Except StoreError Contents
  | [] => .error notADatabase
  | tag :: rest =>
    if tag = 1 then
      .ok { schemaTables := 0, schemaObjects := 0, userVersion := 0, schemaHistory := 0 }
    else match tablesCodec.dec rest with
      | none => .error notADatabase
      | some (t, _) =>
        if t.Valid ∧ t.repository.revision ≤ int64Max then .ok { tables := t }
        else .error notADatabase

lemma plainContents_written {t : Tables} (ht : t.Valid) (hr : t.repository.revision ≤ int64Max) :
    plainContents (2 :: tablesCodec.enc t) = .ok { tables := t } := by
  have hdec := tablesCodec.dec_enc t []
  rw [List.append_nil] at hdec
  have htag : ¬ (2 : UInt8) = 1 := by decide
  simp only [plainContents, htag, if_false, hdec, ht, hr, and_self, if_true]

lemma plainContents_ok {file : Bytes} {c : Contents} (h : plainContents file = .ok c) :
    (c.schemaTables = 0 ∧ c.tables = {}) ∨
      (c = { tables := c.tables } ∧ c.tables.Valid ∧ c.tables.repository.revision ≤ int64Max) := by
  unfold plainContents at h
  split at h
  · cases h
  split_ifs at h
  · cases h
    exact .inl ⟨rfl, rfl⟩
  split at h
  · cases h
  split_ifs at h with hv
  cases h
  exact .inr ⟨rfl, hv⟩

@[reducible] def plainEngine : Engine where
  contents := plainContents
  header := [1]
  created _ := 2 :: tablesCodec.enc {}
  commit _ _ t := 2 :: tablesCodec.enc t
  contents_header := rfl
  contents_created _ := plainContents_written (by
    constructor <;> simp [Table.Bounded]) (by decide)
  contents_commit now file c t hc hs ht hr := by
    rw [plainContents_written ht hr]
    rcases plainContents_ok hc with ⟨hnone, -⟩ | ⟨he, -⟩
    · simp [verifySchema, hnone] at hs
    · rw [he]
  contents_valid file c hc hs := by
    rcases plainContents_ok hc with ⟨hnone, -⟩ | ⟨-, hv, -⟩
    · simp [verifySchema, hnone] at hs
    · exact hv
  contents_range file c hc := by
    rcases plainContents_ok hc with ⟨-, he⟩ | ⟨-, -, hr⟩
    · rw [he]
      decide
    · exact hr
  header_ne := by simp
  created_ne := by simp
  commit_ne := by simp

end Plain

end CcsTrans.Storage
