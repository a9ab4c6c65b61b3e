import CcsTrans.Pieces
import CcsTrans.Server.Responses
import Mathlib.Data.List.GetD
import Mathlib.Data.List.TakeWhile

/-!
The headers that are forwarded.

Headers that concern one connection only are taken out on the way: those with a listed name, and
those that a `Connection` header of the message names. The names in a `Connection` header are
found by a scanner that walks over the value with indices.
-/

namespace CcsTrans.Transport

open CcsTrans.Text CcsTrans.Server

/-! ### The scanner -/

/-- Skip the blanks from `start` on, of `n` bytes. -/
def skipBlanks (value : Bytes) (start : ℕ) : ℕ → ℕ
  | 0 => start
  | n + 1 => if isSpace (value.getD start 0) then skipBlanks value (start + 1) n else start

/-- Skip the blanks at the end of the `n` bytes from `start` on. -/
def dropBlanks (value : Bytes) (start : ℕ) : ℕ → ℕ
  | 0 => start
  | n + 1 => if isSpace (value.getD (start + n) 0) then dropBlanks value start n else start + (n + 1)

/-- The bytes from `start` to `stop`. -/
def slice (value : Bytes) (start stop : ℕ) : Bytes := (value.drop start).take (stop - start)

/-- `std::equal`, but for the case of letters. -/
def equalNoCase (left right : Bytes) : Bool :=
  left.length == right.length && (left.zip right).all fun (l, r) => toLower l == toLower r

/-- The tokens of a value from `start` on, as long as the loop may go on for `rounds`. -/
def scanTokens (value normalizedName : Bytes) : ℕ → ℕ → Bool
  | 0, _ => false
  | rounds + 1, start =>
    if start ≤ value.length then
      let stop := ((value.drop start).findIdx? (· == ch ',')).map (start + ·)
      let tokenEnd := stop.getD value.length
      let tokenStart := skipBlanks value start (tokenEnd - start)
      let tokenEnd := dropBlanks value tokenStart (tokenEnd - tokenStart)
      equalNoCase (slice value tokenStart tokenEnd) normalizedName || match stop with
        | none => false
        | some stop => scanTokens value normalizedName rounds (stop + 1)
    else false

/-- `connection_nominates`. -/
def connectionNominates (headers : Headers) (normalizedName : Bytes) : Bool :=
  headers.any fun header => lowerCopy header.1 = str "connection" &&
    scanTokens header.2 normalizedName (header.2.length + 1) 0

/-- `is_standard_hop_by_hop_name`. -/
def isStandardHopByHopName (name : Bytes) (request : Bool) : Bool :=
  (request && name = str "host") || Server.isStandardHopByHopName name

/-- `filter_headers`. -/
def filterHeaders (headers : Headers) (request : Bool) : Headers :=
  headers.filter fun header => !isStandardHopByHopName (lowerCopy header.1) request &&
    !connectionNominates headers (lowerCopy header.1)

def filterRequestHeaders (headers : Headers) : Headers := filterHeaders headers true

def filterResponseHeaders (headers : Headers) : Headers := filterHeaders headers false

/-! ### The scanner finds the trimmed tokens -/

lemma skipBlanks_eq (value : Bytes) {start n : ℕ} (h : start + n ≤ value.length) :
    skipBlanks value start n =
      start + (((value.drop start).take n).takeWhile isSpace).length := by
  induction n generalizing start with
  | zero => simp [skipBlanks]
  | succ n ih =>
    have hlt : start < value.length := by omega
    rw [skipBlanks, List.getD_eq_getElem _ _ hlt, List.drop_eq_getElem_cons hlt, List.take_succ_cons,
      List.takeWhile_cons]
    split_ifs with hb
    · rw [ih (by omega), List.length_cons]
      omega
    · rfl

lemma dropBlanks_eq (value : Bytes) {start n : ℕ} (h : start + n ≤ value.length) :
    dropBlanks value start n =
      start + (((value.drop start).take n).reverse.dropWhile isSpace).length := by
  induction n with
  | zero => simp [dropBlanks]
  | succ n ih =>
    have hlt : n < (value.drop start).length := by
      rw [List.length_drop]
      omega
    have hget : value.getD (start + n) 0 = (value.drop start)[n] := by
      rw [List.getD_eq_getElem _ _ (by omega), List.getElem_drop]
    rw [dropBlanks, hget, List.take_succ_eq_append_getElem hlt, List.reverse_append,
      List.reverse_singleton, List.singleton_append, List.dropWhile_cons]
    split_ifs with hb
    · exact ih (by omega)
    · rw [List.length_cons, List.length_reverse, List.length_take]
      omega

lemma drop_length_takeWhile (p : UInt8 → Bool) (l : Bytes) :
    l.drop (l.takeWhile p).length = l.dropWhile p := by
  have h : (l.takeWhile p ++ l.dropWhile p).drop (l.takeWhile p).length = l.dropWhile p :=
    List.drop_left
  rwa [List.takeWhile_append_dropWhile] at h

lemma take_length_dropWhile_reverse (p : UInt8 → Bool) (l : Bytes) :
    l.take (l.reverse.dropWhile p).length = (l.reverse.dropWhile p).reverse := by
  have hsplit : l = (l.reverse.dropWhile p).reverse ++ (l.reverse.takeWhile p).reverse := by
    rw [← List.reverse_append, List.takeWhile_append_dropWhile, List.reverse_reverse]
  have h : ((l.reverse.dropWhile p).reverse ++ (l.reverse.takeWhile p).reverse).take
      (l.reverse.dropWhile p).reverse.length = (l.reverse.dropWhile p).reverse := List.take_left
  rwa [← hsplit, List.length_reverse] at h

/-- The slice between the blanks is the trimmed slice. -/
lemma slice_blanks (value : Bytes) (start n : ℕ) (h : start + n ≤ value.length) :
    slice value (skipBlanks value start n)
      (dropBlanks value (skipBlanks value start n) (start + n - skipBlanks value start n)) =
      trim ((value.drop start).take n) := by
  obtain ⟨k, hk⟩ : ∃ k, k = (((value.drop start).take n).takeWhile isSpace).length := ⟨_, rfl⟩
  have hskip : skipBlanks value start n = start + k := by rw [skipBlanks_eq value h, hk]
  have hle : k ≤ n := by
    have hlength := (List.takeWhile_prefix (l := (value.drop start).take n) isSpace).length_le
    rw [List.length_take] at hlength
    omega
  have hrest : (value.drop (start + k)).take (n - k) =
      ((value.drop start).take n).dropWhile isSpace := by
    rw [← drop_length_takeWhile, ← hk, List.drop_take, List.drop_drop]
  have hn : start + n - (start + k) = n - k := by omega
  rw [hskip, hn, dropBlanks_eq value (by omega), slice, hrest, Nat.add_sub_cancel_left, trim,
    ← take_length_dropWhile_reverse, ← hrest, List.take_take]
  congr 1
  have hlength := List.length_dropWhile_le isSpace ((value.drop (start + k)).take (n - k)).reverse
  rw [List.length_reverse, List.length_take] at hlength
  omega

lemma equalNoCase_iff (left right : Bytes) :
    equalNoCase left right = true ↔ lowerCopy left = lowerCopy right := by
  induction left generalizing right with
  | nil => cases right <;> simp [equalNoCase, lowerCopy]
  | cons l left ih =>
    cases right with
    | nil => simp [equalNoCase, lowerCopy]
    | cons r right =>
      have hrest := ih right
      simp only [equalNoCase, lowerCopy, List.length_cons, List.zip_cons_cons, List.all_cons,
        List.map_cons, List.cons.injEq, Bool.and_eq_true, beq_iff_eq, Nat.add_right_cancel_iff]
        at hrest ⊢
      rw [← hrest]
      exact and_left_comm

lemma equalNoCase_eq (left right : Bytes) :
    equalNoCase left right = decide (lowerCopy left = lowerCopy right) := by
  rw [Bool.eq_iff_iff, equalNoCase_iff, decide_eq_true_eq]

/-- What the scanner finds from `start` on is in the tokens of the rest of the value. -/
lemma scanTokens_eq (value normalizedName : Bytes) {rounds start : ℕ} (hstart : start ≤ value.length)
    (hrounds : value.length < start + rounds) : scanTokens value normalizedName rounds start =
      (splitOn (ch ',') (value.drop start)).any
        fun token => lowerCopy (trim token) = lowerCopy normalizedName := by
  induction rounds generalizing start with
  | zero => omega
  | succ rounds ih =>
    have hlength : (value.drop start).length = value.length - start := List.length_drop
    rw [scanTokens, if_pos hstart]
    cases hfind : (value.drop start).findIdx? (· == ch ',') with
    | none =>
      -- the last token
      have hcomma : ch ',' ∉ value.drop start := by
        intro hmem
        have := List.findIdx?_eq_none_iff.mp hfind _ hmem
        simp at this
      have hslice := slice_blanks value start (value.length - start) (by omega)
      rw [Nat.add_sub_cancel' hstart, ← hlength, List.take_length, hlength] at hslice
      simp only [Option.map_none, Option.getD_none]
      rw [hslice, equalNoCase_eq, splitOn_of_notMem hcomma]
      simp
    | some i =>
      obtain ⟨hi, hcomma, hbefore⟩ := List.findIdx?_eq_some_iff_getElem.mp hfind
      have hget : (value.drop start)[i] = ch ',' := by simpa using hcomma
      have htoken : ch ',' ∉ (value.drop start).take i := by
        intro hmem
        obtain ⟨j, hj, heq⟩ := List.mem_take_iff_getElem.mp hmem
        refine hbefore j (by omega) ?_
        simp [heq]
      have hsplit : value.drop start =
          (value.drop start).take i ++ ch ',' :: value.drop (start + i + 1) := by
        calc value.drop start = (value.drop start).take i ++ (value.drop start).drop i :=
              (List.take_append_drop i _).symm
          _ = (value.drop start).take i ++ ch ',' :: value.drop (start + i + 1) := by
              rw [List.drop_eq_getElem_cons hi, hget, List.drop_drop, Nat.add_assoc]
      have hslice := slice_blanks value start i (by omega)
      have hpieces : splitOn (ch ',') (value.drop start) =
          (value.drop start).take i :: splitOn (ch ',') (value.drop (start + i + 1)) := by
        conv_lhs => rw [hsplit, splitOn_append, splitOn_of_notMem htoken]
        rfl
      simp only [Option.map_some, Option.getD_some]
      rw [Nat.add_sub_cancel_left, hslice, equalNoCase_eq, hpieces, List.any_cons,
        ih (by omega) (by omega)]

/-- What the headers of a message nominate. -/
lemma connectionNominates_eq (headers : Headers) (name : Bytes) :
    connectionNominates headers name = Server.connectionNominates headers name := by
  refine congrArg headers.any (funext fun header => ?_)
  rw [scanTokens_eq header.2 name (Nat.zero_le _) (by omega), List.drop_zero]

/-- The filter of responses that the server applies. -/
lemma filterResponseHeaders_eq (headers : Headers) :
    filterResponseHeaders headers = Server.filterResponseHeaders headers := by
  refine List.filter_congr fun header _ => ?_
  rw [connectionNominates_eq, isStandardHopByHopName]
  rfl

/-! ### What passes -/

/-- A token of a `Connection` header of the message is the name, but for the case of letters. -/
def Nominated (headers : Headers) (name : Bytes) : Prop :=
  ∃ header ∈ headers, lowerCopy header.1 = str "connection" ∧
    ∃ token ∈ splitOn (ch ',') header.2, lowerCopy (trim token) = lowerCopy name

instance (headers : Headers) (name : Bytes) : Decidable (Nominated headers name) :=
  inferInstanceAs (Decidable (∃ header ∈ headers, _ ∧ ∃ token ∈ splitOn (ch ',') header.2, _))

/-- The names of headers that are never forwarded. -/
def Listed (request : Bool) (name : Bytes) : Prop :=
  lowerCopy name ∈ [str "content-length", str "connection", str "keep-alive",
    str "proxy-authenticate", str "proxy-authorization", str "proxy-connection", str "te",
    str "trailer", str "transfer-encoding", str "upgrade"] ∨
    request = true ∧ lowerCopy name = str "host"

instance (request : Bool) (name : Bytes) : Decidable (Listed request name) :=
  inferInstanceAs (Decidable (_ ∨ _))

lemma toLower_toLower (b : UInt8) : toLower (toLower b) = toLower b := by
  unfold toLower
  split_ifs with h₁ h₂
  · simp only [isUpper, Bool.and_eq_true, decide_eq_true_eq, UInt8.le_iff_toNat_le,
      UInt8.toNat_add, UInt8.reduceToNat] at h₁ h₂
    omega
  · rfl
  · rfl

lemma lowerCopy_lowerCopy (s : Bytes) : lowerCopy (lowerCopy s) = lowerCopy s := by
  rw [lowerCopy, lowerCopy, List.map_map]
  exact List.map_congr_left fun b _ => toLower_toLower b

lemma connectionNominates_iff (headers : Headers) (name : Bytes) :
    connectionNominates headers (lowerCopy name) = true ↔ Nominated headers name := by
  rw [connectionNominates_eq, Server.connectionNominates]
  simp only [List.any_eq_true, Bool.and_eq_true, decide_eq_true_eq, lowerCopy_lowerCopy, Nominated]

lemma isStandardHopByHopName_iff (request : Bool) (name : Bytes) :
    isStandardHopByHopName (lowerCopy name) request = true ↔ Listed request name := by
  rw [isStandardHopByHopName, Server.isStandardHopByHopName, Bool.or_eq_true, Listed, or_comm]
  simp only [List.contains_iff_mem, Bool.and_eq_true, decide_eq_true_eq]

/-- The headers that are kept. -/
lemma mem_filterHeaders {request : Bool} {headers : Headers} {header : Bytes × Bytes} :
    header ∈ filterHeaders headers request ↔
      header ∈ headers ∧ ¬ Listed request header.1 ∧ ¬ Nominated headers header.1 := by
  rw [filterHeaders, List.mem_filter, ← isStandardHopByHopName_iff, ← connectionNominates_iff]
  simp only [Bool.and_eq_true, Bool.not_eq_true', Bool.not_eq_true]

/-- More headers nominate more names. -/
lemma Nominated.mono {headers headers' : Headers} {name : Bytes} (h : Nominated headers name)
    (hsub : headers ⊆ headers') : Nominated headers' name := by
  obtain ⟨header, hmem, hname, htoken⟩ := h
  exact ⟨header, hsub hmem, hname, htoken⟩

/-- No `Connection` header is kept. -/
lemma not_nominated_filterHeaders (request : Bool) (headers : Headers) (name : Bytes) :
    ¬ Nominated (filterHeaders headers request) name := by
  rintro ⟨header, hmem, hname, -⟩
  obtain ⟨-, hlisted, -⟩ := mem_filterHeaders.mp hmem
  refine hlisted (.inl ?_)
  simp [hname]

/-- The law of a filter: exactly the headers pass, unchanged and in order, whose name is neither
listed nor nominated by a `Connection` header of the message. Filtering again changes nothing,
and with more `Connection` headers, anywhere, no more headers pass. -/
structure FilterLaw (request : Bool) (filter : Headers → Headers) : Prop where
  kept : ∀ headers, filter headers = headers.filter fun header =>
    ¬ Listed request header.1 ∧ ¬ Nominated headers header.1
  again : ∀ headers, filter (filter headers) = filter headers
  more : ∀ before connections after : Headers,
    (∀ header ∈ connections, lowerCopy header.1 = str "connection") →
    (filter (before ++ connections ++ after)).Sublist (filter (before ++ after))

lemma filterHeaders_kept (request : Bool) (headers : Headers) :
    filterHeaders headers request = headers.filter fun header =>
      ¬ Listed request header.1 ∧ ¬ Nominated headers header.1 := by
  refine List.filter_congr fun header _ => ?_
  rw [Bool.eq_iff_iff, decide_eq_true_eq, ← isStandardHopByHopName_iff, ← connectionNominates_iff]
  simp only [Bool.and_eq_true, Bool.not_eq_true', Bool.not_eq_true]

lemma filterHeaders_again (request : Bool) (headers : Headers) :
    filterHeaders (filterHeaders headers request) request = filterHeaders headers request := by
  rw [filterHeaders_kept]
  refine List.filter_eq_self.mpr fun header hmem => ?_
  obtain ⟨-, hlisted, -⟩ := mem_filterHeaders.mp hmem
  exact decide_eq_true ⟨hlisted, not_nominated_filterHeaders request headers header.1⟩

lemma filterHeaders_more (request : Bool) (before connections after : Headers)
    (h : ∀ header ∈ connections, lowerCopy header.1 = str "connection") :
    (filterHeaders (before ++ connections ++ after) request).Sublist
      (filterHeaders (before ++ after) request) := by
  have hmono {name : Bytes} (hname : Nominated (before ++ after) name) :
      Nominated (before ++ connections ++ after) name :=
    hname.mono (List.append_subset.mpr ⟨fun x hx => by simp [hx], fun x hx => by simp [hx]⟩)
  have hlisted : ∀ header ∈ connections, Listed request header.1 := by
    intro header hmem
    refine .inl ?_
    simp [h header hmem]
  -- no added header passes, and the others have to pass a stricter test
  have hnone : connections.filter (fun header => ¬ Listed request header.1 ∧
      ¬ Nominated (before ++ connections ++ after) header.1) = [] := by
    refine List.filter_eq_nil_iff.mpr fun header hmem => ?_
    simp [hlisted header hmem]
  rw [filterHeaders_kept, filterHeaders_kept, List.filter_append, List.filter_append, hnone,
    List.append_nil, ← List.filter_append]
  refine List.monotone_filter_right _ fun header => ?_
  simp only [decide_eq_true_eq]
  exact fun ⟨hl, hn⟩ => ⟨hl, fun hname => hn (hmono hname)⟩

/-- **What the filters keep.** -/
theorem header_filters_law :
    FilterLaw true filterRequestHeaders ∧ FilterLaw false filterResponseHeaders :=
  ⟨⟨filterHeaders_kept true, filterHeaders_again true, filterHeaders_more true⟩,
    ⟨filterHeaders_kept false, filterHeaders_again false, filterHeaders_more false⟩⟩

end CcsTrans.Transport
