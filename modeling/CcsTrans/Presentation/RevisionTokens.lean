import CcsTrans.Pieces
import CcsTrans.Presentation.ViewModel

/-!
Tokens of revisions.

Which revision a draft was begun from is told by a token: the digest of a byte string that is put
together from the parts of the revision. The view model compares nothing but tokens, so the byte
string has to tell revisions apart, whatever bytes the configuration file has.
-/

namespace CcsTrans.Presentation.Tokens

open CcsTrans.Text CcsTrans.Core

/-! ### The byte string -/

structure ApplicationSourceToken where
  exists_ : Bool := false
  bytes : Bytes := []

structure RepositoryRevision where
  applicationSource : ApplicationSourceToken := {}
  profileRevision : Int64 := 0

/-- The string that `repository_revision_token` builds. -/
def source (revision : RepositoryRevision) : Bytes :=
  let source := str "ccs-trans.repository-revision/v1"
  let source := source ++ [0]
  let source := source ++ [if revision.applicationSource.exists_ then ch '1' else ch '0']
  let source := source ++ [0]
  let source := source ++ decimalInt revision.profileRevision.toInt
  let source := source ++ [0]
  source ++ revision.applicationSource.bytes

def repositoryRevisionToken (revision : RepositoryRevision) : Bytes := sha256Hex (source revision)

/-- A revision of the view model, where a file that does not exist has no bytes. -/
def ofModel (revision : Config.RepositoryRevision) : RepositoryRevision where
  applicationSource :=
    { exists_ := revision.applicationSource.isSome, bytes := revision.applicationSource.getD [] }
  profileRevision := Int64.ofInt revision.profileRevision

/-! ### The parts are told apart -/

lemma zero_notMem_decimalInt (n : ℤ) : 0 ∉ decimalInt n := by
  have hdigits : 0 ∉ decimal n.natAbs := fun hmem => absurd (decimal_isDigit _ _ hmem) (by decide)
  unfold decimalInt
  split_ifs
  · rw [List.mem_cons]
    exact not_or.mpr ⟨by decide, hdigits⟩
  · exact hdigits

lemma decimalInt_injective {m n : ℤ} (h : decimalInt m = decimalInt n) : m = n := by
  have hsign (k : ℤ) (l : ℕ) : ch '-' :: decimal k.natAbs ≠ decimal l := by
    intro heq
    have hmem : ch '-' ∈ decimal l := by
      rw [← heq]
      exact List.mem_cons_self
    exact absurd (decimal_isDigit _ _ hmem) (by decide)
  have habs (heq : decimal m.natAbs = decimal n.natAbs) : m.natAbs = n.natAbs := by
    rw [← digitsValue_decimal m.natAbs, heq, digitsValue_decimal]
  unfold decimalInt at h
  split_ifs at h
  · have hnat := habs (List.cons.inj h).2
    omega
  · exact absurd h (hsign m _)
  · exact absurd h.symm (hsign n _)
  · have hnat := habs h
    omega

/-- The byte string, in its parts. -/
lemma source_eq (revision : RepositoryRevision) :
    source revision = str "ccs-trans.repository-revision/v1" ++
      (0 :: (if revision.applicationSource.exists_ then ch '1' else ch '0') :: 0 ::
        (decimalInt revision.profileRevision.toInt ++ 0 :: revision.applicationSource.bytes)) := by
  simp only [source, List.append_assoc, List.cons_append, List.nil_append]

/-- **The byte string tells revisions apart.** The numeral in it has no zero byte, so it ends at
the first one, and the bytes of the file are all that follows. -/
lemma source_injective : Function.Injective source := by
  rintro ⟨⟨exists₁, bytes₁⟩, revision₁⟩ ⟨⟨exists₂, bytes₂⟩, revision₂⟩ h
  rw [source_eq, source_eq, List.append_cancel_left_eq, List.cons.injEq, List.cons.injEq,
    List.cons.injEq] at h
  obtain ⟨-, hexists, -, htail⟩ := h
  obtain ⟨hnumber, hbytes⟩ := append_separator_inj (zero_notMem_decimalInt _)
    (zero_notMem_decimalInt _) htail
  have hflag : exists₁ = exists₂ := by
    have hdistinct : ch '1' ≠ ch '0' := by decide
    cases exists₁ <;> cases exists₂
    · rfl
    · exact absurd hexists.symm hdistinct
    · exact absurd hexists hdistinct
    · rfl
  have hrevision : revision₁ = revision₂ := Int64.toInt_inj.mp (decimalInt_injective hnumber)
  change bytes₁ = bytes₂ at hbytes
  rw [hflag, hbytes, hrevision]

/-- **Tokens identify revisions**: among revisions on whose strings the digest has no collision,
those with equal tokens are equal. -/
theorem revision_tokens :
    Function.Injective source ∧
    ∀ revisions : Set RepositoryRevision, Set.InjOn sha256Hex (source '' revisions) →
      Set.InjOn repositoryRevisionToken revisions := by
  refine ⟨source_injective, fun revisions hfree => ?_⟩
  intro r hr s hs htoken
  exact source_injective (hfree (Set.mem_image_of_mem _ hr) (Set.mem_image_of_mem _ hs) htoken)

/-- A repository without a file, and one that was written once. -/
theorem revision_tokens_two : Set.InjOn repositoryRevisionToken
    {{}, { applicationSource := { exists_ := true, bytes := str "\x7b\x7d" }, profileRevision := 1 }} := by
  refine revision_tokens.2 _ ?_
  rw [Set.image_pair, Set.injOn_pair]
  intro heq
  exact absurd heq (by decide +kernel)

/-! ### The view model -/

/-- The token of the view model is this one. -/
lemma token_ofModel {revision : Config.RepositoryRevision}
    (hrevision : (Int64.ofInt revision.profileRevision).toInt = revision.profileRevision) :
    Presentation.repositoryRevisionToken revision = repositoryRevisionToken (ofModel revision) := by
  unfold Presentation.repositoryRevisionToken repositoryRevisionToken source ofModel
  simp only []
  rw [hrevision]
  cases revision.applicationSource <;> rfl

/-- A draft whose token is that of the repository was begun from its revision, or two byte strings
with one digest are at hand. -/
lemma revision_of_token {r s : Config.RepositoryRevision}
    (hr : (Int64.ofInt r.profileRevision).toInt = r.profileRevision)
    (hs : (Int64.ofInt s.profileRevision).toInt = s.profileRevision)
    (htoken : Presentation.repositoryRevisionToken r = Presentation.repositoryRevisionToken s) :
    r = s ∨ source (ofModel r) ≠ source (ofModel s) ∧
      sha256Hex (source (ofModel r)) = sha256Hex (source (ofModel s)) := by
  rw [token_ofModel hr, token_ofModel hs] at htoken
  by_cases hsource : source (ofModel r) = source (ofModel s)
  · left
    have heq := source_injective hsource
    obtain ⟨file, number⟩ := r
    obtain ⟨file', number'⟩ := s
    have hnumber := congrArg (·.profileRevision.toInt) heq
    have hexists := congrArg (·.applicationSource.exists_) heq
    have hbytes := congrArg (·.applicationSource.bytes) heq
    simp only [ofModel] at hnumber hexists hbytes hr hs
    rw [hr, hs] at hnumber
    rw [hnumber]
    cases file <;> cases file' <;> simp_all
  · exact .inr ⟨hsource, htoken⟩

end CcsTrans.Presentation.Tokens
