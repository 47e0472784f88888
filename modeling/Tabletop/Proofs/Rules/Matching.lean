import Mathlib.Tactic.Lemma
import Tabletop.Rules.Tag

/-!
# Which tags match

A tag is cut at its dots when it is matched.  This module says what comes of it without mentioning the
cut: `IsSegment` is about texts without dots that make up a tag when they are joined by dots, and
`Matches` is equality, or being a segment of the other.

Nothing is special about empty texts.  The empty tag has one segment, itself; a dot at an end of a tag,
or next to another one, makes an empty segment, which the empty tag matches.

What carries the argument is that there is only one way to take a tag apart (`isSegment_iff`).  A text
with a dot is therefore no segment of anything, and two paths match only when they are equal, even if
one is the beginning of the other (`tag_matching`).
-/

namespace Tabletop.Rules

/-- Whether a text is one of the segments of a tag: the texts without dots which, joined by dots, make
up the tag. -/
def IsSegment (segment tag : String) : Prop :=
  ∃ segments : List String, (∀ s ∈ segments, '.' ∉ s.toList) ∧ ".".intercalate segments = tag ∧
    segment ∈ segments

/-- Whether two tags match: they are equal, or one is without dots and a segment of the other. -/
def Matches (a b : String) : Prop :=
  a = b ∨ '.' ∉ b.toList ∧ IsSegment b a ∨ '.' ∉ a.toList ∧ IsSegment a b

/-! ## Segments -/

lemma segmentsOf_eq_splitOn (cs : List Char) : segmentsOf cs = cs.splitOn '.' := by
  induction cs with
  | nil => rfl
  | cons c cs ih =>
      rw [segmentsOf, List.splitOn_cons_eq_if_modifyHead, ih]
      by_cases hc : c = '.'
      · rw [if_pos hc, if_pos (beq_iff_eq.2 hc)]
      · rw [if_neg hc, if_neg fun h => hc (beq_iff_eq.1 h)]
        cases hsplit : cs.splitOn '.' with
        | nil => exact absurd hsplit (List.splitOn_ne_nil _ _)
        | cons segment segments => rfl

/-- A segment contains no dot. -/
lemma dot_notMem_of_mem_segmentsOf {segment cs : List Char} (h : segment ∈ segmentsOf cs) :
    '.' ∉ segment := by
  induction cs generalizing segment with
  | nil =>
      rw [List.mem_singleton.1 h]
      exact List.not_mem_nil
  | cons c cs ih =>
      rw [segmentsOf] at h
      split at h
      · rcases List.mem_cons.1 h with rfl | h
        · exact List.not_mem_nil
        · exact ih h
      · rename_i hc
        -- Any other character joins the first segment of what follows it.
        split at h
        · rw [List.mem_singleton.1 h]
          exact fun hdot => hc (List.mem_singleton.1 hdot).symm
        · rename_i first segments hsegments
          rw [hsegments] at ih
          rcases List.mem_cons.1 h with rfl | h
          · refine fun hdot => (List.mem_cons.1 hdot).elim (fun heq => hc heq.symm) ?_
            exact ih List.mem_cons_self
          · exact ih (List.mem_cons_of_mem _ h)

/-- A text without dots is its only segment. -/
lemma segmentsOf_of_undotted {cs : List Char} (h : '.' ∉ cs) : segmentsOf cs = [cs] := by
  rw [segmentsOf_eq_splitOn, List.splitOn_eq_singleton h]

/-- **There is one way to take a tag apart.**  Texts without dots that make it up are those that it is
cut into. -/
lemma segmentsOf_intercalate {segments : List String} (hne : segments ≠ [])
    (hundotted : ∀ s ∈ segments, '.' ∉ s.toList) :
    segmentsOf (".".intercalate segments).toList = segments.map String.toList := by
  have hdot : ".".toList = ['.'] := rfl
  rw [segmentsOf_eq_splitOn, String.toList_intercalate, hdot]
  refine List.splitOn_intercalate '.' ?_ (by simpa using hne)
  intro cs hcs
  obtain ⟨s, hs, rfl⟩ := List.mem_map.1 hcs
  exact hundotted s hs

lemma intercalate_segmentsOf (tag : String) :
    ".".intercalate ((segmentsOf tag.toList).map String.ofList) = tag := by
  have hdot : ".".toList = ['.'] := rfl
  have hchars : ((segmentsOf tag.toList).map String.ofList).map String.toList =
      tag.toList.splitOn '.' := by
    rw [← segmentsOf_eq_splitOn, List.map_map]
    exact (List.map_congr_left fun _ _ => String.toList_ofList).trans (List.map_id _)
  rw [← String.toList_inj, String.toList_intercalate, hchars, hdot, List.intercalate_splitOn]

lemma isSegment_iff {segment tag : String} :
    IsSegment segment tag ↔ segment.toList ∈ segmentsOf tag.toList := by
  constructor
  · rintro ⟨segments, hundotted, rfl, hmem⟩
    rw [segmentsOf_intercalate (List.ne_nil_of_mem hmem) hundotted]
    exact List.mem_map_of_mem hmem
  · intro h
    refine ⟨(segmentsOf tag.toList).map String.ofList, ?_, intercalate_segmentsOf tag, ?_⟩
    · intro s hs
      obtain ⟨cs, hcs, rfl⟩ := List.mem_map.1 hs
      rw [String.toList_ofList]
      exact dot_notMem_of_mem_segmentsOf hcs
    · exact List.mem_map.2 ⟨_, h, String.ofList_toList⟩

namespace IsSegment

variable {segment tag : String}

/-- No text with a dot is a segment. -/
lemma undotted (h : IsSegment segment tag) : '.' ∉ segment.toList :=
  dot_notMem_of_mem_segmentsOf (isSegment_iff.1 h)

/-- The only segment of a text without dots is the text. -/
lemma eq_of_undotted (h : IsSegment segment tag) (htag : '.' ∉ tag.toList) : segment = tag := by
  rw [isSegment_iff, segmentsOf_of_undotted htag, List.mem_singleton] at h
  exact String.toList_inj.1 h

end IsSegment

lemma hasSegment_iff {tag segment : String} :
    hasSegment tag.toList segment.toList = true ↔ '.' ∈ tag.toList ∧ IsSegment segment tag := by
  rw [hasSegment, Bool.and_eq_true, List.contains_iff_mem, List.contains_iff_mem, isSegment_iff]

/-! ## Matching -/

namespace Matches

variable {a b : String}

lemma symm (h : Matches a b) : Matches b a := by
  rcases h with heq | hb | ha
  · exact .inl heq.symm
  · exact .inr (.inr hb)
  · exact .inr (.inl ha)

lemma of_isSegment (h : IsSegment b a) : Matches a b :=
  .inr (.inl ⟨h.undotted, h⟩)

/-- Of two tags that match and differ, one is without dots. -/
lemma eq_of_dotted (h : Matches a b) (ha : '.' ∈ a.toList) (hb : '.' ∈ b.toList) : a = b := by
  rcases h with heq | ⟨hundotted, -⟩ | ⟨hundotted, -⟩
  · exact heq
  · exact absurd hb hundotted
  · exact absurd ha hundotted

end Matches

/-- Only paths are searched for segments; a tag without dots has none but itself, so nothing is
missed. -/
lemma tagMatches_iff {a b : String} : tagMatches a b = true ↔ Matches a b := by
  rw [tagMatches, Bool.or_eq_true, Bool.or_eq_true, beq_iff_eq, hasSegment_iff, hasSegment_iff]
  constructor
  · rintro ((heq | ⟨-, hsegment⟩) | ⟨-, hsegment⟩)
    · exact .inl heq
    · exact .of_isSegment hsegment
    · exact (Matches.of_isSegment hsegment).symm
  · rintro (heq | ⟨-, hsegment⟩ | ⟨-, hsegment⟩)
    · exact .inl (.inl heq)
    · by_cases ha : '.' ∈ a.toList
      · exact .inl (.inr ⟨ha, hsegment⟩)
      · exact .inl (.inl (hsegment.eq_of_undotted ha).symm)
    · by_cases hb : '.' ∈ b.toList
      · exact .inr ⟨hb, hsegment⟩
      · exact .inl (.inl (hsegment.eq_of_undotted hb))

lemma matchesTag_singleton_iff {a b : String} : matchesTag [a] b = true ↔ Matches a b := by
  rw [matchesTag, List.any_cons, List.any_nil, Bool.or_false, tagMatches_iff]

lemma matchesAnyTrigger_iff {tags triggers : List String} :
    matchesAnyTrigger tags triggers = true ↔
      ∃ tag ∈ tags, ∃ trigger ∈ triggers, Matches tag trigger := by
  simp only [matchesAnyTrigger, matchesTag, List.any_eq_true, tagMatches_iff]
  constructor
  · rintro ⟨trigger, htrigger, tag, htag, h⟩
    exact ⟨tag, htag, trigger, htrigger, h⟩
  · rintro ⟨tag, htag, trigger, htrigger, h⟩
    exact ⟨trigger, htrigger, tag, htag, h⟩

lemma matchesAnyTrigger_comm (tags triggers : List String) :
    matchesAnyTrigger tags triggers = matchesAnyTrigger triggers tags := by
  rw [Bool.eq_iff_iff, matchesAnyTrigger_iff, matchesAnyTrigger_iff]
  constructor
  · rintro ⟨tag, htag, trigger, htrigger, h⟩
    exact ⟨trigger, htrigger, tag, htag, h.symm⟩
  · rintro ⟨trigger, htrigger, tag, htag, h⟩
    exact ⟨tag, htag, trigger, htrigger, h.symm⟩

lemma matchesAnyTrigger_append (tags first second : List String) :
    matchesAnyTrigger tags (first ++ second) =
      (matchesAnyTrigger tags first || matchesAnyTrigger tags second) :=
  List.any_append

/-- **What tag matching means.**  Two tags match exactly if they are equal, or one is without dots and
a segment of the other.  So matching is symmetric, different paths never match, not even a path and a
longer one that begins with it, and segments joined by dots match their path and the path matches
itself.  An action matches triggers exactly if one of its tags matches one of them; either list may be
cut in two, and the order of the two lists does not matter. -/
theorem tag_matching :
    (∀ a b : String, matchesTag [a] b = true ↔
      a = b ∨ '.' ∉ b.toList ∧ IsSegment b a ∨ '.' ∉ a.toList ∧ IsSegment a b) ∧
    (∀ a b : String, matchesTag [a] b = matchesTag [b] a) ∧
    (∀ a b : String, '.' ∈ a.toList → '.' ∈ b.toList → a ≠ b → matchesTag [a] b = false) ∧
    (∀ segments : List String, (∀ s ∈ segments, '.' ∉ s.toList) →
      let path := ".".intercalate segments
      matchesTag [path] path = true ∧ ∀ s ∈ segments, matchesTag [path] s = true) ∧
    (∀ tags triggers : List String, matchesAnyTrigger tags triggers = true ↔
      ∃ tag ∈ tags, ∃ trigger ∈ triggers, matchesTag [tag] trigger = true) ∧
    (∀ tags triggers : List String,
      matchesAnyTrigger tags triggers = matchesAnyTrigger triggers tags) ∧
    (∀ tags more triggers : List String, matchesAnyTrigger (tags ++ more) triggers =
      (matchesAnyTrigger tags triggers || matchesAnyTrigger more triggers)) ∧
    (∀ tags triggers more : List String, matchesAnyTrigger tags (triggers ++ more) =
      (matchesAnyTrigger tags triggers || matchesAnyTrigger tags more)) ∧
    (∀ triggers : List String, matchesAnyTrigger [] triggers = false) ∧
    ∀ tags : List String, matchesAnyTrigger tags [] = false := by
  have hempty : ∀ tags : List String, matchesAnyTrigger tags [] = false := fun _ => List.any_nil
  refine ⟨fun a b => matchesTag_singleton_iff, ?_, ?_, ?_, ?_, matchesAnyTrigger_comm, ?_,
    matchesAnyTrigger_append, ?_, hempty⟩
  · intro a b
    rw [Bool.eq_iff_iff, matchesTag_singleton_iff, matchesTag_singleton_iff]
    exact ⟨Matches.symm, Matches.symm⟩
  -- Two paths can only be equal: what has a dot is no segment of anything.
  · intro a b ha hb hne
    rw [← Bool.not_eq_true, matchesTag_singleton_iff]
    exact fun h => hne (h.eq_of_dotted ha hb)
  · intro segments hundotted path
    refine ⟨matchesTag_singleton_iff.2 (.inl rfl), fun s hs => ?_⟩
    exact matchesTag_singleton_iff.2 (.of_isSegment ⟨segments, hundotted, rfl, hs⟩)
  · intro tags triggers
    simp only [matchesAnyTrigger_iff, matchesTag_singleton_iff]
  · intro tags more triggers
    rw [matchesAnyTrigger_comm, matchesAnyTrigger_append, matchesAnyTrigger_comm triggers tags,
      matchesAnyTrigger_comm triggers more]
  · intro triggers
    rw [matchesAnyTrigger_comm, hempty]

/-- The path of a longsword, with an empty segment, matches its segments, and no path that it begins
with. -/
theorem tag_matching_longsword :
    let segments := ["weapon", "", "sword"]
    let path := ".".intercalate segments
    (∀ s ∈ segments, '.' ∉ s.toList) ∧ path = "weapon..sword" ∧
      (∀ s ∈ segments, matchesTag [path] s = true) ∧ matchesTag [path] "weapon." = false := by
  intro segments path
  obtain ⟨-, -, hpaths, hsegments, -⟩ := tag_matching
  have hundotted : ∀ s ∈ segments, '.' ∉ s.toList := by decide
  exact ⟨hundotted, rfl, (hsegments segments hundotted).2,
    hpaths path "weapon." (by decide) (by decide) (by decide)⟩

end Tabletop.Rules
