import HistoryQuiz.Client.Observability
import HistoryQuiz.Postgres.Migration

/-!
# Question ids in metric keys

`normalizePathname` puts `:id` in the place of the segments that are numbers or UUIDs, and a
second application changes nothing (`normalizePathname_normalizePathname`). The pattern of a UUID
asks for the version and the variant of RFC 4122, which the ids that `gen_random_uuid()` makes
have, and the ids of the seeded questions have not (`seeded_pathnames`).
-/

namespace HistoryQuiz

namespace Client

namespace Observability

open Js

/-! ## Segments -/

/-- The segments of a path. -/
def segments (pathname : String) : List String :=
  (split pathname '/').filter fun segment => segment ≠ ""

theorem normalizePathname_eq (pathname : String) :
    normalizePathname pathname = "/" ++ join ((segments pathname).map normalizeSegment) '/' :=
  rfl

theorem segments_append (a b : String) :
    segments (a ++ String.singleton '/' ++ b) = segments a ++ segments b := by
  unfold segments
  rw [split_append, List.filter_append]

theorem segments_empty : segments "" = [] := by decide

/-- Joined texts have the segments of the texts. -/
theorem segments_join (parts : List String) :
    segments (join parts '/') = parts.flatMap segments := by
  induction parts with
  | nil => exact segments_empty
  | cons part rest ih =>
      unfold join at ih ⊢
      obtain _ | ⟨next, rest⟩ := rest
      · simp
      · rw [String.intercalate_cons_cons, segments_append, ih]
        rfl

theorem not_mem_of_mem_splitOn {separator : Char} {l part : List Char}
    (h : part ∈ l.splitOn separator) : separator ∉ part := by
  induction l generalizing part with
  | nil =>
      rw [List.splitOn_nil, List.mem_singleton] at h
      exact h ▸ List.not_mem_nil
  | cons c l ih =>
      obtain ⟨first, rest, hparts⟩ := List.exists_cons_of_ne_nil (List.splitOn_ne_nil separator l)
      rw [List.splitOn_cons_eq_if_modifyHead, hparts] at h
      rw [hparts] at ih
      split_ifs at h with hc
      · obtain rfl | h := List.mem_cons.mp h
        · exact List.not_mem_nil
        · exact ih h
      · obtain rfl | h := List.mem_cons.mp h
        · rw [List.mem_cons, not_or]
          exact ⟨fun heq => hc (beq_iff_eq.mpr heq.symm), ih List.mem_cons_self⟩
        · exact ih (List.mem_cons_of_mem _ h)

theorem mem_segments {pathname segment : String} (h : segment ∈ segments pathname) :
    segment ≠ "" ∧ '/' ∉ segment.toList := by
  obtain ⟨hsegment, hne⟩ := List.mem_filter.mp h
  refine ⟨of_decide_eq_true hne, ?_⟩
  obtain ⟨l, hl, rfl⟩ := List.mem_map.mp hsegment
  rw [String.toList_ofList]
  exact not_mem_of_mem_splitOn hl

/-- A text without slashes is its own segment. -/
theorem segments_of_not_mem {segment : String} (hne : segment ≠ "") (h : '/' ∉ segment.toList) :
    segments segment = [segment] := by
  unfold segments split
  rw [List.splitOn_eq_singleton h, List.map_singleton, String.ofList_toList]
  simp [hne]

/-! ## A second application -/

theorem normalizeSegment_id : normalizeSegment ":id" = ":id" := by decide

theorem normalizeSegment_normalizeSegment (segment : String) :
    normalizeSegment (normalizeSegment segment) = normalizeSegment segment := by
  by_cases h : (isUuidSegment segment || isNumericSegment segment) = true
  · have hid : normalizeSegment segment = ":id" := if_pos h
    rw [hid, normalizeSegment_id]
  · have hsame : normalizeSegment segment = segment := if_neg h
    rw [hsame, hsame]

/-- A segment stays one. -/
theorem segments_normalizeSegment {pathname segment : String} (h : segment ∈ segments pathname) :
    segments (normalizeSegment segment) = [normalizeSegment segment] := by
  obtain ⟨hne, hslash⟩ := mem_segments h
  unfold normalizeSegment
  split_ifs
  · decide
  · exact segments_of_not_mem hne hslash

theorem segments_normalizePathname (pathname : String) :
    segments (normalizePathname pathname) = (segments pathname).map normalizeSegment := by
  have hslash : normalizePathname pathname =
      "" ++ String.singleton '/' ++ join ((segments pathname).map normalizeSegment) '/' := by
    rw [normalizePathname_eq, String.empty_append]
    rfl
  rw [hslash, segments_append, segments_empty, List.nil_append, segments_join, List.flatMap_map]
  rw [List.map_eq_flatMap]
  exact List.flatMap_congr fun segment hsegment => segments_normalizeSegment hsegment

/-- `normalizePathname` is idempotent. -/
theorem normalizePathname_normalizePathname (pathname : String) :
    normalizePathname (normalizePathname pathname) = normalizePathname pathname := by
  have hsegments : ((segments pathname).map normalizeSegment).map normalizeSegment =
      (segments pathname).map normalizeSegment := by
    rw [List.map_map]
    refine List.map_congr_left ?_
    intro segment _
    rw [Function.comp_apply, normalizeSegment_normalizeSegment]
  rw [normalizePathname_eq (normalizePathname pathname), segments_normalizePathname, hsegments,
    normalizePathname_eq]

/-- Two paths are normalized alike when their segments are. -/
theorem normalizePathname_inj {a b : String} :
    normalizePathname a = normalizePathname b ↔
      (segments a).map normalizeSegment = (segments b).map normalizeSegment := by
  constructor
  · intro h
    rw [← segments_normalizePathname, h, segments_normalizePathname]
  · intro h
    rw [normalizePathname_eq, h, normalizePathname_eq]

/-! ## Ids -/

/-- A spelling of the canonical text in letters of either case. -/
def Spells (u : Uuid) (text : String) : Prop := text.toList.map Char.toLower = u.text.toList

instance (u : Uuid) (text : String) : Decidable (Spells u text) :=
  inferInstanceAs (Decidable (_ = _))

/-- The version is one of 1 to 5, and the variant that of RFC 4122. -/
def Versioned (u : Uuid) : Prop :=
  1 ≤ (u.extractLsb' 76 4).toNat ∧ (u.extractLsb' 76 4).toNat ≤ 5 ∧ u.extractLsb' 62 2 = 2#2

/-- The ids that the database makes are versioned. -/
theorem versioned_random (id : RandomUuid) : Versioned id.value := by
  have hrandom := id.random
  unfold Uuid.isRandom at hrandom
  rw [Bool.and_eq_true, beq_iff_eq, beq_iff_eq] at hrandom
  unfold Versioned
  rw [hrandom.1]
  exact ⟨by decide, by decide, hrandom.2⟩

theorem forall₂_append {α β : Type} {R : α → β → Prop} {l l' : List α} {m m' : List β}
    (hlen : l.length = m.length) :
    List.Forall₂ R (l ++ l') (m ++ m') ↔ List.Forall₂ R l m ∧ List.Forall₂ R l' m' := by
  induction l generalizing m with
  | nil =>
      obtain rfl := List.length_eq_zero_iff.mp hlen.symm
      simp
  | cons a l ih =>
      obtain _ | ⟨b, m⟩ := m
      · cases hlen
      · simp only [List.cons_append, List.forall₂_cons, ih (Nat.succ.inj hlen), and_assoc]

theorem forall₂_hexDigits (n value : ℕ) :
    List.Forall₂ (fun isOfClass c => isOfClass c = true) (List.replicate n isHexadecimal)
      (hexDigits n value) := by
  have hhex : ∀ d < 16, isHexadecimal (hexDigit d) = true := by decide
  rw [List.forall₂_iff_get]
  refine ⟨by rw [List.length_replicate, length_hexDigits], ?_⟩
  intro i hi hi'
  obtain ⟨d, hd, hdigit⟩ := mem_hexDigits (List.get_mem (hexDigits n value) ⟨i, hi'⟩)
  rw [hdigit, List.get_eq_getElem, List.getElem_replicate]
  exact hhex d hd

/-- The digits of the version and the variant decide. -/
theorem versioned_iff (u : Uuid) :
    isVersion (hexDigit (u.toNat / 16 ^ 19 % 16)) = true ∧
      isVariant (hexDigit (u.toNat / 16 ^ 15 % 16)) = true ↔ Versioned u := by
  have hversion : ∀ d < 16, isVersion (hexDigit d) = true ↔ 1 ≤ d ∧ d ≤ 5 := by decide
  have hvariant : ∀ d < 16, isVariant (hexDigit d) = true ↔ d / 4 = 2 := by decide
  have hbits : (u.extractLsb' 76 4).toNat = u.toNat / 16 ^ 19 % 16 := by
    rw [BitVec.extractLsb'_toNat, Nat.shiftRight_eq_div_pow]
    rfl
  have hbits' : (u.extractLsb' 62 2).toNat = u.toNat / 16 ^ 15 % 16 / 4 := by
    rw [BitVec.extractLsb'_toNat, Nat.shiftRight_eq_div_pow,
      show 2 ^ 62 = 16 ^ 15 * 4 from rfl, ← Nat.div_div_eq_div_mul]
    omega
  unfold Versioned
  rw [hversion _ (Nat.mod_lt _ (by decide)), hvariant _ (Nat.mod_lt _ (by decide)), hbits,
    ← BitVec.toNat_inj, hbits', and_assoc]
  rfl

/-- The pattern of a UUID matches the spellings of the versioned ones. -/
theorem isUuidSegment_iff {u : Uuid} {text : String} (h : Spells u text) :
    isUuidSegment text = true ↔ Versioned u := by
  have hlen : ∀ n value, (List.replicate n isHexadecimal).length = (hexDigits n value).length := by
    intro n value
    rw [List.length_replicate, length_hexDigits]
  unfold isUuidSegment
  rw [decide_eq_true_iff, h, text_groups, ← versioned_iff]
  unfold UUID_SEGMENT_PATTERN
  simp only [List.append_assoc, List.cons_append]
  rw [forall₂_append (hlen ..), List.forall₂_cons, forall₂_append (hlen ..), List.forall₂_cons,
    List.forall₂_cons, forall₂_append (hlen ..), List.forall₂_cons, List.forall₂_cons,
    forall₂_append (hlen ..), List.forall₂_cons]
  simp only [forall₂_hexDigits, decide_true, true_and, and_true]

theorem Spells.mem {u : Uuid} {text : String} (h : Spells u text) {c : Char}
    (hc : c ∈ text.toList) : c.toLower = '-' ∨ ∃ d < 16, c.toLower = hexDigit d :=
  Uuid.mem_text (h ▸ List.mem_map_of_mem hc)

theorem Spells.length {u : Uuid} {text : String} (h : Spells u text) : text.toList.length = 36 := by
  have hlen := congrArg List.length h
  rwa [List.length_map, length_text] at hlen

theorem Spells.segments {u : Uuid} {text : String} (h : Spells u text) :
    segments text = [text] := by
  refine segments_of_not_mem ?_ ?_
  · rintro rfl
    exact absurd h.length (by decide)
  · intro hslash
    have hdigits : ∀ d < 16, '/'.toLower ≠ hexDigit d := by decide
    obtain hc | ⟨d, hd, hc⟩ := h.mem hslash
    · exact absurd hc (by decide)
    · exact hdigits d hd hc

theorem toLower_of_isDigit {c : Char} (h : c.isDigit = true) : c.toLower = c := by
  unfold Char.isDigit at h
  rw [Bool.and_eq_true, decide_eq_true_iff, decide_eq_true_iff] at h
  refine dif_neg ?_
  rintro ⟨hupper, -⟩
  exact absurd (UInt32.le_trans hupper h.2) (by decide)

/-- A UUID is no number, since it has hyphens. -/
theorem Spells.not_numeric {u : Uuid} {text : String} (h : Spells u text) :
    isNumericSegment text = false := by
  have hhyphen : '-' ∈ text.toList.map Char.toLower := by
    rw [h, text_groups]
    simp
  obtain ⟨c, hc, hlower⟩ := List.mem_map.mp hhyphen
  rw [Bool.eq_false_iff]
  intro hnumeric
  unfold isNumericSegment at hnumeric
  rw [Bool.and_eq_true, List.all_eq_true] at hnumeric
  have hdigit := hnumeric.2 c hc
  rw [← toLower_of_isDigit hdigit, hlower] at hdigit
  cases hdigit

theorem normalizeSegment_eq_id {u : Uuid} {text : String} (h : Spells u text) :
    normalizeSegment text = ":id" ↔ Versioned u := by
  rw [← isUuidSegment_iff h]
  unfold normalizeSegment
  rw [h.not_numeric, Bool.or_false]
  split_ifs with hpattern
  · exact iff_of_true rfl hpattern
  · refine iff_of_false ?_ hpattern
    rintro rfl
    exact absurd h.length (by decide)

/-- The path with a text among its segments. -/
def pathWith (before : List String) (id : String) (after : List String) : String :=
  join (before ++ id :: after) '/'

theorem normalizePathname_pathWith {before after : List String} {s t : String}
    (hs : segments s = [s]) (ht : segments t = [t]) :
    normalizePathname (pathWith before s after) = normalizePathname (pathWith before t after) ↔
      normalizeSegment s = normalizeSegment t := by
  rw [normalizePathname_inj]
  unfold pathWith
  simp only [segments_join, List.flatMap_append, List.flatMap_cons, hs, ht, List.map_append,
    List.map_singleton, List.append_cancel_left_eq, List.append_cancel_right_eq]
  rw [List.singleton_inj]

/-- For every path with an id in any place, all spellings of two ids: the path is normalized
alike with both, to the path with `:id`, exactly when both are versioned; and to normalize a
second time changes nothing. -/
theorem normalizePathname_ids (before after : List String) {u v : Uuid} {s t : String}
    (hu : Spells u s) (hv : Spells v t) :
    ((normalizePathname (pathWith before s after) = normalizePathname (pathWith before t after) ∧
      normalizePathname (pathWith before s after) =
        normalizePathname (pathWith before ":id" after)) ↔ Versioned u ∧ Versioned v) ∧
    ∀ pathname, normalizePathname (normalizePathname pathname) = normalizePathname pathname := by
  refine ⟨?_, normalizePathname_normalizePathname⟩
  have hid : segments ":id" = [":id"] := by decide
  rw [normalizePathname_pathWith hu.segments hv.segments,
    normalizePathname_pathWith hu.segments hid, normalizeSegment_id, ← normalizeSegment_eq_id hu,
    ← normalizeSegment_eq_id hv]
  constructor
  · rintro ⟨hsame, hs⟩
    exact ⟨hs, hsame ▸ hs⟩
  · rintro ⟨hs, ht⟩
    exact ⟨hs.trans ht.symm, hs⟩

/-! ### Seeded and random ids -/

/-- The page on which a question is edited. -/
def editPathname (id : String) : String := pathWith ["", "questions"] id ["edit"]

/-- Two of the seeded questions: their pages have metrics of their own. -/
theorem seeded_pathnames :
    [0x1, 0x2] ⊆ (seeded 0).questions.map QuestionRow.id ∧
      Spells 0x1 "00000000-0000-0000-0000-000000000001" ∧
      Spells 0x2 "00000000-0000-0000-0000-000000000002" ∧
      normalizePathname (editPathname "00000000-0000-0000-0000-000000000001") ≠
        normalizePathname (editPathname "00000000-0000-0000-0000-000000000002") := by
  decide +kernel

/-- Two ids of version 4, one of them in upper-case letters. -/
theorem normalizePathname_ids_random :
    (normalizePathname (editPathname "f47ac10b-58cc-4372-a567-0e02b2c3d479") =
        normalizePathname (editPathname "9F86D081-884C-4D63-8A2F-7B1C0E5F6A90") ∧
      normalizePathname (editPathname "f47ac10b-58cc-4372-a567-0e02b2c3d479") =
        normalizePathname (editPathname ":id")) ↔
    Versioned 0xf47ac10b58cc4372a5670e02b2c3d479 ∧ Versioned 0x9f86d081884c4d638a2f7b1c0e5f6a90 :=
  (normalizePathname_ids ["", "questions"] ["edit"]
    (show Spells 0xf47ac10b58cc4372a5670e02b2c3d479 _ by decide +kernel)
    (show Spells 0x9f86d081884c4d638a2f7b1c0e5f6a90 _ by decide +kernel)).1

end Observability

end Client

end HistoryQuiz
