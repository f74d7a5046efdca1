import HistoryQuiz.Client.Auth

/-!
# Query strings

How `URLSearchParams` reads the query of a URL: the parser of
application/x-www-form-urlencoded. It reads back what `buildLoginUrl` has written
(`parseSearchParams_redirectTo`).
-/

namespace HistoryQuiz

namespace Client

open Js QuizUsecase

/-- A reader of UTF-8 that keeps a byte order mark. What it makes of bytes that are no UTF-8 is
left open. -/
structure Utf8Decoder where
  decode : List (BitVec 8) → String
  decode_utf8Bytes : ∀ s, decode (utf8Bytes s) = s

/-- Reads UTF-8, and nothing else. -/
def utf8Decoder : Utf8Decoder where
  decode bytes := match (bytes.map UInt8.ofBitVec).toByteArray.utf8Decode? with
    | some chars => String.ofList chars.toList
    | none => "\ufffd"
  decode_utf8Bytes := by
    intro s
    have hbytes : (utf8Bytes s).map UInt8.ofBitVec = s.toList.flatMap String.utf8EncodeChar := by
      unfold utf8Bytes
      rw [List.map_map]
      exact List.map_id'' (fun b => rfl) _
    have hdecode : (s.toList.flatMap String.utf8EncodeChar).toByteArray.utf8Decode? =
        some s.toList.toArray := List.utf8Decode?_utf8Encode
    rw [hbytes, hdecode]
    exact String.ofList_toList

/-! ## The parser -/

/-- The value of a hexadecimal digit. -/
def hexByteValue (b : BitVec 8) : Option ℕ :=
  let n := b.toNat
  if 48 ≤ n ∧ n ≤ 57 then some (n - 48)
  else if 65 ≤ n ∧ n ≤ 70 then some (n - 55)
  else if 97 ≤ n ∧ n ≤ 102 then some (n - 87)
  else none

/-- Percent-decoding. -/
def percentDecode : List (BitVec 8) → List (BitVec 8)
  | b :: high :: low :: rest =>
      if b = 0x25#8 then
        match hexByteValue high, hexByteValue low with
        | some h, some l => BitVec.ofNat 8 (16 * h + l) :: percentDecode rest
        | _, _ => b :: percentDecode (high :: low :: rest)
      else b :: percentDecode (high :: low :: rest)
  | bytes => bytes

/-- A plus sign stands for a space. -/
def plusToSpace (b : BitVec 8) : BitVec 8 := if b = 0x2b#8 then 0x20#8 else b

/-- A name or a value. -/
def decodeComponent (utf8 : Utf8Decoder) (bytes : List (BitVec 8)) : String :=
  utf8.decode (percentDecode (bytes.map plusToSpace))

/-- A pair: its name ends at the first `=`. -/
def parsePair (utf8 : Utf8Decoder) (bytes : List (BitVec 8)) : String × String :=
  (decodeComponent utf8 (bytes.takeWhile (· ≠ 0x3d#8)),
    decodeComponent utf8 (bytes.dropWhile (· ≠ 0x3d#8)).tail)

/-- `new URLSearchParams(query)`, of a query without its question mark. -/
def parseSearchParams (utf8 : Utf8Decoder) (query : String) : List (String × String) :=
  (((utf8Bytes query).splitOn 0x26#8).filter (· ≠ [])).map (parsePair utf8)

/-! ## What it reads back -/

theorem utf8Bytes_append (s t : String) : utf8Bytes (s ++ t) = utf8Bytes s ++ utf8Bytes t := by
  unfold utf8Bytes
  rw [String.toList_append, List.flatMap_append, List.map_append]

/-- What a byte is written as, in bytes. -/
def encodedBytes (b : BitVec 8) : List (BitVec 8) :=
  (formUrlEncodeByte b).map fun c => BitVec.ofNat 8 c.toNat

/-- Whether one byte is read back. -/
def readsBack (b : BitVec 8) : Bool :=
  match (encodedBytes b).map plusToSpace with
  | [c] => c = b && c ≠ 0x25#8
  | [percent, high, low] =>
      percent = 0x25#8 && match hexByteValue high, hexByteValue low with
        | some h, some l => BitVec.ofNat 8 (16 * h + l) = b
        | _, _ => false
  | _ => false

theorem readsBack_all : ∀ b, readsBack b = true := by decide +kernel

/-- The encoding is ASCII, without the character that separates pairs. -/
theorem encoded_ascii : ∀ b, ∀ c ∈ formUrlEncodeByte b,
    c.toNat < 0x80 ∧ BitVec.ofNat 8 c.toNat ≠ 0x26#8 := by
  have hall : ∀ b, ((formUrlEncodeByte b).all fun c =>
      decide (c.toNat < 0x80) && BitVec.ofNat 8 c.toNat != 0x26#8) = true := by decide +kernel
  intro b c hc
  have hboth := List.all_eq_true.mp (hall b) c hc
  rw [Bool.and_eq_true, decide_eq_true_eq, bne_iff_ne] at hboth
  exact hboth

theorem percentDecode_cons_ne {b : BitVec 8} (h : b ≠ 0x25#8) (rest : List (BitVec 8)) :
    percentDecode (b :: rest) = b :: percentDecode rest := by
  rcases rest with _ | ⟨high, _ | ⟨low, rest⟩⟩
  · rfl
  · rfl
  · rw [percentDecode, if_neg h]

/-- A byte that has been written is read back. -/
theorem percentDecode_encodedBytes (b : BitVec 8) (rest : List (BitVec 8)) :
    percentDecode ((encodedBytes b).map plusToSpace ++ rest) = b :: percentDecode rest := by
  have hreads := readsBack_all b
  unfold readsBack at hreads
  split at hreads
  case h_1 c hc =>
    rw [hc]
    simp only [Bool.and_eq_true, decide_eq_true_eq] at hreads
    obtain ⟨rfl, hne⟩ := hreads
    exact percentDecode_cons_ne hne rest
  case h_2 percent high low hc =>
    rw [hc]
    show percentDecode (percent :: high :: low :: rest) = _
    rw [Bool.and_eq_true, decide_eq_true_eq] at hreads
    obtain ⟨hpercent, hvalues⟩ := hreads
    rw [percentDecode, if_pos hpercent]
    cases hhigh : hexByteValue high with
    | none =>
        rw [hhigh] at hvalues
        cases hvalues
    | some h =>
        cases hlow : hexByteValue low with
        | none =>
            rw [hhigh, hlow] at hvalues
            cases hvalues
        | some l =>
            rw [hhigh, hlow] at hvalues
            dsimp only at hvalues ⊢
            rw [of_decide_eq_true hvalues]
  case h_3 => cases hreads

theorem decodeComponent_encodedBytes (utf8 : Utf8Decoder) (s : String) :
    decodeComponent utf8 ((utf8Bytes s).flatMap encodedBytes) = s := by
  have hbytes : ∀ bytes : List (BitVec 8),
      percentDecode ((bytes.flatMap encodedBytes).map plusToSpace) = bytes := by
    intro bytes
    induction bytes with
    | nil => rfl
    | cons b bytes ih =>
        rw [List.flatMap_cons, List.map_append, percentDecode_encodedBytes, ih]
  unfold decodeComponent
  rw [hbytes, utf8.decode_utf8Bytes]

/-- The bytes of ASCII text. -/
theorem utf8Bytes_ascii {l : List Char} (h : ∀ c ∈ l, c.toNat < 0x80) :
    utf8Bytes (String.ofList l) = l.map fun c => BitVec.ofNat 8 c.toNat := by
  have hchar : ∀ n < 0x80, (String.utf8EncodeChar (Char.ofNat n)).map UInt8.toBitVec =
      [BitVec.ofNat 8 n] := by decide +kernel
  unfold utf8Bytes
  rw [String.toList_ofList]
  induction l with
  | nil => rfl
  | cons c l ih =>
      rw [List.forall_mem_cons] at h
      have hc := hchar c.toNat h.1
      rw [Char.ofNat_toNat] at hc
      rw [List.flatMap_cons, List.map_append, hc, ih h.2]
      rfl

/-- A query of one pair. -/
theorem parseSearchParams_single (utf8 : Utf8Decoder) {query : String}
    {name value : List (BitVec 8)} (hquery : utf8Bytes query = name ++ 0x3d#8 :: value)
    (hname : ∀ b ∈ name, b ≠ 0x26#8 ∧ b ≠ 0x3d#8) (hvalue : ∀ b ∈ value, b ≠ 0x26#8) :
    parseSearchParams utf8 query = [(decodeComponent utf8 name, decodeComponent utf8 value)] := by
  have hsingle : (name ++ 0x3d#8 :: value).splitOn 0x26#8 = [name ++ 0x3d#8 :: value] := by
    apply List.splitOnP_eq_singleton
    intro b hb
    rw [beq_eq_false_iff_ne]
    rcases List.mem_append.mp hb with hb | hb
    · exact (hname b hb).1
    · rcases List.mem_cons.mp hb with rfl | hb
      · decide
      · exact hvalue b hb
  have hplain : ∀ b ∈ name, decide (b ≠ 0x3d#8) = true := fun b hb =>
    decide_eq_true (hname b hb).2
  have hpair : parsePair utf8 (name ++ 0x3d#8 :: value) =
      (decodeComponent utf8 name, decodeComponent utf8 value) := by
    unfold parsePair
    rw [List.takeWhile_append_of_pos hplain, List.dropWhile_append_of_pos hplain]
    simp
  unfold parseSearchParams
  rw [hquery, hsingle]
  simp [hpair]

/-- The query of a login URL has the target as its only parameter. -/
theorem parseSearchParams_redirectTo (utf8 : Utf8Decoder) (target : String) :
    parseSearchParams utf8
      ("redirectTo=" ++ String.ofList ((utf8Bytes target).flatMap formUrlEncodeByte)) =
        [("redirectTo", target)] := by
  have hascii : ∀ c ∈ (utf8Bytes target).flatMap formUrlEncodeByte, c.toNat < 0x80 := by
    intro c hc
    obtain ⟨b, -, hb⟩ := List.mem_flatMap.mp hc
    exact (encoded_ascii b c hb).1
  have hvalue : utf8Bytes (String.ofList ((utf8Bytes target).flatMap formUrlEncodeByte)) =
      (utf8Bytes target).flatMap encodedBytes := by
    rw [utf8Bytes_ascii hascii, List.map_flatMap]
    rfl
  have hname : utf8Bytes "redirectTo=" = utf8Bytes "redirectTo" ++ [0x3d#8] := by decide +kernel
  have hquery : utf8Bytes
      ("redirectTo=" ++ String.ofList ((utf8Bytes target).flatMap formUrlEncodeByte)) =
        utf8Bytes "redirectTo" ++ 0x3d#8 :: (utf8Bytes target).flatMap encodedBytes := by
    rw [utf8Bytes_append, hname, hvalue, List.append_assoc]
    rfl
  have hseparator : ∀ b ∈ (utf8Bytes target).flatMap encodedBytes, b ≠ 0x26#8 := by
    intro b hb
    obtain ⟨b', -, hb'⟩ := List.mem_flatMap.mp hb
    obtain ⟨c, hc, rfl⟩ := List.mem_map.mp hb'
    exact (encoded_ascii b' c hc).2
  have hdecoded : percentDecode ((utf8Bytes "redirectTo").map plusToSpace) =
      utf8Bytes "redirectTo" := by decide +kernel
  rw [parseSearchParams_single utf8 hquery (by decide +kernel) hseparator,
    decodeComponent_encodedBytes]
  unfold decodeComponent
  rw [hdecoded, utf8.decode_utf8Bytes]

end Client

end HistoryQuiz
