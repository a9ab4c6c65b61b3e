import CcsTrans.Logging.Lines
import CcsTrans.Server.Responses

/-!
Sizes that are computed before.

The memory for a head and for a line is reserved by a size that is computed apart from the text.
The two computations agree with the two texts, to the byte.
-/

namespace CcsTrans.Server.Heads

open CcsTrans.Text CcsTrans.Logging CcsTrans.Protocols

/-- `HttpResponse`, with its status as the `int` that it is. -/
structure HttpResponse where
  statusCode : Int32 := 200
  reason : Bytes := str "OK"
  headers : Headers := []
  body : Bytes := []

/-- The loop of `decimal_size`. -/
def countDigits (value digits : ℕ) : ℕ :=
  if 10 ≤ value then countDigits (value / 10) (digits + 1) else digits
termination_by value
decreasing_by omega

def decimalSize (value : ℕ) : ℕ := countDigits value 1

/-- The reason, or the phrase of the status when there is none. -/
def shownReason (response : HttpResponse) : Bytes :=
  if response.reason = [] then reasonPhrase response.statusCode.toInt.toNat else response.reason

/-- The first half of `build_response_head`: the size. A status that is negative is a large `size_t`. -/
def headSize (response : HttpResponse) (includeContentLength : Bool) : ℕ :=
  let size := 9 + decimalSize response.statusCode.toInt64.toUInt64.toNat + 1 + (shownReason response).length + 2
  let size := response.headers.foldl
    (fun size (name, value) => size + (name.length + 2 + value.length + 2)) size
  let size := if includeContentLength then size + (16 + decimalSize response.body.length + 2) else size
  size + (19 + 2)

/-- The second half: the text. -/
def headData (response : HttpResponse) (includeContentLength : Bool) : Bytes :=
  let data := str "HTTP/1.1 " ++ decimalInt response.statusCode.toInt ++ [ch ' '] ++ shownReason response ++ str "\r\n"
  let data := response.headers.foldl
    (fun data (name, value) => data ++ name ++ str ": " ++ value ++ str "\r\n") data
  let data := if includeContentLength then
    data ++ str "Content-Length: " ++ decimal response.body.length ++ str "\r\n" else data
  data ++ str "Connection: close\r\n\r\n"

structure BuiltResponseHead where
  memory : Option ℕ
  data : Bytes

/-- `build_response_head`. A budget gives what is asked of it or nothing, and then there is no head. -/
def buildResponseHead (response : HttpResponse) (includeContentLength : Bool)
    (budget : Option (ℕ → Bool)) : Option BuiltResponseHead :=
  let size := headSize response includeContentLength
  match budget with
  | none => some ⟨none, headData response includeContentLength⟩
  | some tryAcquire =>
    if tryAcquire size then some ⟨some size, headData response includeContentLength⟩ else none

/-! ### Digits -/

lemma countDigits_eq (value digits : ℕ) : countDigits value digits + 1 = digits + (decimal value).length := by
  induction value using Nat.strong_induction_on generalizing digits with
  | _ value ih =>
    rw [countDigits]
    split_ifs with hten
    · have hrest := ih (value / 10) (by omega) (digits + 1)
      have hlength : (decimal value).length = (decimal (value / 10)).length + 1 := by
        rw [decimal, decimal, if_neg (by omega), if_neg (by omega), List.length_map, List.length_map,
          List.length_reverse, List.length_reverse, Nat.digits_def' (by omega) (by omega), List.length_cons]
      omega
    · have hlength : (decimal value).length = 1 := by
        interval_cases value <;> rfl
      omega

lemma decimalSize_eq (value : ℕ) : decimalSize value = (decimal value).length := by
  have h := countDigits_eq value 1
  unfold decimalSize
  omega

/-! ### The head of a response -/

/-- A response with a status that is not negative. -/
def HttpResponse.plain (response : HttpResponse) : Server.HttpResponse :=
  ⟨response.statusCode.toInt.toNat, response.reason, response.headers, response.body⟩

lemma status_toUInt64 {n : Int32} (h : 0 ≤ n.toInt) : n.toInt64.toUInt64.toNat = n.toInt.toNat := by
  have hle : (0 : Int64) ≤ n.toInt64 := by
    rw [Int64.le_iff_toInt_le, Int32.toInt_toInt64]
    exact h
  rw [Int64.toNat_toUInt64_of_le hle]
  show n.toInt64.toInt.toNat = _
  rw [Int32.toInt_toInt64]

lemma foldl_size (headers : Headers) (size : ℕ) : headers.foldl
    (fun size (name, value) => size + (name.length + 2 + value.length + 2)) size =
      size + (headers.map fun header => header.1.length + 2 + header.2.length + 2).sum := by
  induction headers generalizing size with
  | nil => rfl
  | cons header headers ih => rw [List.foldl_cons, ih, List.map_cons, List.sum_cons, Nat.add_assoc]

lemma foldl_data (headers : Headers) (data : Bytes) : headers.foldl
    (fun data (name, value) => data ++ name ++ str ": " ++ value ++ str "\r\n") data =
      data ++ headers.flatMap fun header => header.1 ++ str ": " ++ header.2 ++ str "\r\n" := by
  induction headers generalizing data with
  | nil => simp
  | cons header headers ih =>
    rw [List.foldl_cons, ih, List.flatMap_cons]
    simp only [List.append_assoc]

section Nonnegative

variable {response : HttpResponse} (h : 0 ≤ response.statusCode.toInt) (includeContentLength : Bool)
include h

/-- The size is that of a head. -/
lemma headSize_eq :
    headSize response includeContentLength = Server.headSize response.plain includeContentLength := by
  unfold headSize Server.headSize
  dsimp only
  rw [foldl_size, decimalSize_eq, decimalSize_eq, status_toUInt64 h]
  cases includeContentLength <;> rfl

/-- The text is that of a head. -/
lemma headData_eq :
    headData response includeContentLength = headText response.plain includeContentLength := by
  have hspace : [ch ' '] = str " " := rfl
  have hstatus : decimalInt response.statusCode.toInt = decimal response.plain.statusCode := by
    rw [decimalInt, if_neg (by omega)]
    congr 1
    show _ = response.statusCode.toInt.toNat
    omega
  have hreason : shownReason response = response.plain.shownReason := rfl
  unfold headData headText
  dsimp only
  rw [foldl_data, hstatus, hspace, hreason]
  cases includeContentLength with
  | false => simp only [Bool.false_eq_true, if_false, List.append_nil]; rfl
  | true => simp only [if_true, List.append_assoc]; rfl

/-- The memory for a head is what the head takes. -/
lemma length_headData :
    (headData response includeContentLength).length = headSize response includeContentLength := by
  rw [headData_eq h, headSize_eq h, length_headText]

end Nonnegative

/-- **Sizes that are computed before are exact**: that of a line, for which the memory is never grown
later, and that of a head. -/
theorem precomputed_sizes :
    (∀ tm count level event fields,
      (Lines.renderLine tm count level event fields).length = Lines.renderedLineSize level event fields ∧
      Lines.leaseStep (Lines.renderedLineSize level event fields)
        (Lines.renderLine tm count level event fields).length = .keep) ∧
    ∀ (response : HttpResponse) (includeContentLength : Bool), 0 ≤ response.statusCode.toInt →
      headSize response includeContentLength = (headData response includeContentLength).length ∧
      ∀ budget built, buildResponseHead response includeContentLength budget = some built →
        ∀ bytes ∈ built.memory, bytes = built.data.length := by
  refine ⟨fun tm count level event fields => ?_, fun response includeContentLength h => ?_⟩
  · have hsize := Lines.length_renderLine tm count level event fields
    refine ⟨hsize, ?_⟩
    rw [hsize, Lines.leaseStep, if_neg (lt_irrefl _), if_neg (lt_irrefl _)]
  · have hsize := length_headData h includeContentLength
    refine ⟨hsize.symm, fun budget built hbuilt bytes hbytes => ?_⟩
    unfold buildResponseHead at hbuilt
    cases budget with
    | none =>
      obtain rfl := Option.some.inj hbuilt
      cases hbytes
    | some tryAcquire =>
      dsimp only at hbuilt
      split_ifs at hbuilt
      obtain rfl := Option.some.inj hbuilt
      obtain rfl := Option.some.inj hbytes
      exact hsize.symm

theorem precomputed_sizes_found :
    headSize ⟨404, [], [(str "A", str "b")], str "xyz"⟩ true =
      (headData ⟨404, [], [(str "A", str "b")], str "xyz"⟩ true).length :=
  (precomputed_sizes.2 ⟨404, [], [(str "A", str "b")], str "xyz"⟩ true (by decide)).1

end CcsTrans.Server.Heads
