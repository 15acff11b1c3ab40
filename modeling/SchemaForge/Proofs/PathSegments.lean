import SchemaForge.Path
import SchemaForge.Proofs.DottedQuads
import SchemaForge.Proofs.FilterMembership

/-!
# Path entries and segments

A path entry is compared character by character, but it matches whole segments: the segments of the
entry, slashes at its end apart, are the first segments of the path. So an entry never ends inside a
segment of a path that it matches, and one entry is narrower than another if its base is below it.
-/

namespace SchemaForge

namespace Path

lemma segments_eq (path : String) :
    segments path = (path.toList.splitOn '/').map String.ofList := by
  rw [segments, Text.splitOn_eq]

/-- Segments with slashes between them. -/
def ofSegments (parts : List String) : String :=
  String.ofList (['/'].intercalate (parts.map String.toList))

lemma ofSegments_segments (path : String) : ofSegments (segments path) = path := by
  have hchars : (segments path).map String.toList = path.toList.splitOn '/' := by
    rw [segments_eq, List.map_map]
    exact (List.map_congr_left fun part _ => String.toList_ofList).trans (List.map_id _)
  rw [ofSegments, hchars, List.intercalate_splitOn, String.ofList_toList]

lemma segments_injective {path other : String} (h : segments path = segments other) :
    path = other := by
  rw [← ofSegments_segments path, h, ofSegments_segments]

lemma segments_ofSegments {parts : List String} (hne : parts ≠ [])
    (hparts : ∀ part ∈ parts, '/' ∉ part.toList) : segments (ofSegments parts) = parts := by
  have hchars : ∀ cs ∈ parts.map String.toList, '/' ∉ cs := by
    intro cs hcs
    obtain ⟨part, hpart, rfl⟩ := List.mem_map.mp hcs
    exact hparts part hpart
  rw [segments_eq, ofSegments, String.toList_ofList,
    List.splitOn_intercalate '/' hchars (mt List.map_eq_nil_iff.mp hne), List.map_map]
  exact (List.map_congr_left fun part _ => String.ofList_toList).trans (List.map_id _)

lemma not_mem_of_mem_segments {path part : String} (h : part ∈ segments path) :
    '/' ∉ part.toList := by
  rw [segments_eq] at h
  obtain ⟨cs, hcs, rfl⟩ := List.mem_map.mp h
  rw [String.toList_ofList]
  exact not_mem_of_mem_splitOn hcs

lemma segments_append_slash (base below : String) :
    segments (base ++ "/" ++ below) = segments base ++ segments below := by
  have hslash : "/".toList = ['/'] := rfl
  rw [segments_eq, segments_eq, segments_eq, String.toList_append, String.toList_append, hslash,
    List.append_assoc, List.singleton_append, List.splitOn_append_cons_self, List.map_append]

/-- A path is the base or below it exactly when it begins with the segments of the base. -/
lemma segments_prefix_iff (base path : String) :
    segments base <+: segments path ↔ path = base ∨ ∃ below, path = base ++ "/" ++ below := by
  constructor
  · rintro ⟨more, hmore⟩
    by_cases hnil : more = []
    · subst hnil
      rw [List.append_nil] at hmore
      exact .inl (segments_injective hmore.symm)
    · -- The segments that follow are those of a path of their own.
      have hparts : ∀ part ∈ more, '/' ∉ part.toList := by
        intro part hpart
        have hmem : part ∈ segments path := by
          rw [← hmore]
          exact List.mem_append_right _ hpart
        exact not_mem_of_mem_segments hmem
      refine .inr ⟨ofSegments more, segments_injective ?_⟩
      rw [segments_append_slash, segments_ofSegments hnil hparts, hmore]
  · rintro (rfl | ⟨below, rfl⟩)
    · exact List.prefix_rfl
    · rw [segments_append_slash]
      exact List.prefix_append _ _

end Path

namespace Predicate

section Entry

variable {p base : String}

lemma pathBase_of_stripped (h : IsStripped '/' p base) : pathBase p = base.toList := by
  rw [(Refinement.stripped_iff '/' p base).mp h, String.toList_ofList]
  rfl

lemma eval_pathPrefix_text (h : IsStripped '/' p base) (path : String) :
    (pathPrefix p).eval (.text path) = true ↔ Path.segments base <+: Path.segments path := by
  rw [eval, pathBase_of_stripped h, Refinement.isBelow_iff, Path.segments_prefix_iff]

lemma eval_pathPrefix_number (p : String) (n : Nat) : (pathPrefix p).eval (.number n) = false := by
  rw [eval]

/-- What an entry matches depends on its base alone. -/
lemma eval_pathPrefix_congr {p' : String} (h : IsStripped '/' p base) (h' : IsStripped '/' p' base)
    (s : Operand) : (pathPrefix p').eval s = (pathPrefix p).eval s := by
  cases s with
  | number n => rw [eval_pathPrefix_number, eval_pathPrefix_number]
  | text path =>
    rw [Bool.eq_iff_iff, eval_pathPrefix_text h, eval_pathPrefix_text h']

/-- More slashes at the end do not change the base. -/
lemma stripped_append_slashes (h : IsStripped '/' p base) (n : Nat) :
    IsStripped '/' (p ++ String.ofList (List.replicate n '/')) base := by
  obtain ⟨dropped, hp, hdropped, hlast⟩ := h
  refine ⟨dropped ++ List.replicate n '/', ?_, ?_, hlast⟩
  · rw [String.toList_append, String.toList_ofList, hp, List.append_assoc]
  · intro x hx
    rcases List.mem_append.mp hx with hx | hx
    · exact hdropped x hx
    · exact List.eq_of_mem_replicate hx

/-- After the base of an entry a path that it matches ends or has a slash. -/
lemma eval_pathPrefix_inside (h : IsStripped '/' p base) {path : String} {c : Char}
    {rest : List Char} (hpath : path.toList = base.toList ++ c :: rest) (hc : c ≠ '/') :
    (pathPrefix p).eval (.text path) = false := by
  have hslash : "/".toList = ['/'] := rfl
  rw [Bool.eq_false_iff, ne_eq, eval_pathPrefix_text h, Path.segments_prefix_iff]
  rintro (rfl | ⟨below, rfl⟩)
  · simp at hpath
  · rw [String.toList_append, String.toList_append, hslash, List.append_assoc,
      List.singleton_append, List.append_cancel_left_eq] at hpath
    exact hc (List.cons_eq_cons.mp hpath).1.symm

/-- An entry whose base is matched by another entry matches less. -/
lemma eval_pathPrefix_of_base {p' base' : String} (h : IsStripped '/' p base)
    (h' : IsStripped '/' p' base') (hbase : (pathPrefix p).eval (.text base') = true) {s : Operand}
    (hs : (pathPrefix p').eval s = true) : (pathPrefix p).eval s = true := by
  cases s with
  | number n =>
    rw [eval_pathPrefix_number] at hs
    cases hs
  | text path =>
    rw [eval_pathPrefix_text h] at hbase ⊢
    exact hbase.trans ((eval_pathPrefix_text h' path).mp hs)

end Entry

/-- A path entry matches whole segments: with the slashes at its end dropped, its segments are the
first segments of the path. It never matches inside a segment, slashes at its end make no
difference, and entries with a base that it matches are narrower. -/
theorem pathPrefix_matches_segments (p : String) :
    ∃ base, IsStripped '/' p base ∧
      (∀ q, (pathPrefix p).eval (.text q) = true ↔ Path.segments base <+: Path.segments q) ∧
      (∀ q c rest, q.toList = base.toList ++ c :: rest → c ≠ '/' →
        (pathPrefix p).eval (.text q) = false) ∧
      (∀ n s, (pathPrefix (p ++ String.ofList (List.replicate n '/'))).eval s =
        (pathPrefix p).eval s) ∧
      ∀ p' base', IsStripped '/' p' base' → (pathPrefix p).eval (.text base') = true →
        ∀ s, (pathPrefix p').eval s = true → (pathPrefix p).eval s = true := by
  have h := (Refinement.stripped_iff '/' p _).mpr rfl
  refine ⟨_, h, eval_pathPrefix_text h, ?_, ?_, ?_⟩
  · intro q c rest hq hc
    exact eval_pathPrefix_inside h hq hc
  · intro n s
    exact eval_pathPrefix_congr h (stripped_append_slashes h n) s
  · intro p' base' h' hbase s hs
    exact eval_pathPrefix_of_base h h' hbase hs

/-- A path below the entry, a longer last segment, more slashes, an entry below the entry, and the
entry of the root. -/
theorem pathPrefix_matches_segments_of_api :
    (pathPrefix "/api/").eval (.text "/api//users") = true ∧
      (pathPrefix "/api/").eval (.text "/apis") = false ∧
      (pathPrefix "/api///").eval (.text "/api") = (pathPrefix "/api/").eval (.text "/api") ∧
      (IsStripped '/' "/api/v1/" "/api/v1" ∧
        ∀ s, (pathPrefix "/api/v1/").eval s = true → (pathPrefix "/api/").eval s = true) ∧
      ∀ q, (pathPrefix "/").eval (.text q) = true ↔ [""] <+: Path.segments q := by
  have hapi : ∀ base, IsStripped '/' "/api/" base → base = "/api" := fun base h =>
    ((Refinement.stripped_iff '/' "/api/" base).mp h).trans rfl
  have hroot : ∀ base, IsStripped '/' "/" base → base = "" := fun base h =>
    ((Refinement.stripped_iff '/' "/" base).mp h).trans rfl
  obtain ⟨base, hbase, hsegments, hinside, hslashes, hnarrow⟩ := pathPrefix_matches_segments "/api/"
  obtain rfl := hapi base hbase
  have hv1 : IsStripped '/' "/api/v1/" "/api/v1" := ⟨['/'], rfl, by simp, by decide⟩
  refine ⟨(hsegments _).mpr ⟨["", "users"], by decide⟩, hinside "/apis" 's' [] rfl (by decide),
    hslashes 2 _, ⟨hv1, hnarrow _ _ hv1 ((hsegments _).mpr ⟨["v1"], by decide⟩)⟩, ?_⟩
  obtain ⟨base, hbase, hsegments, -⟩ := pathPrefix_matches_segments "/"
  obtain rfl := hroot base hbase
  exact hsegments

end Predicate

end SchemaForge
